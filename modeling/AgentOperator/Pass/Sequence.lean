import AgentOperator.Step.Result
import AgentOperator.Store.Program

/-!
Running steps in order. `proceed` goes on even after an error, `stop` ends the pass with the last
error that any step met, and `requeue` ends it without one.
-/
namespace AgentOperator

inductive Schedule where
  /-- When something changes. -/
  | idle
  | soon
  | after (delay : Duration)
  deriving DecidableEq, Repr

structure Outcome where
  schedule : Schedule
  error : Option StepError
  deriving DecidableEq, Repr

namespace Pass

/-- Runs the steps that are left; `error` is the last one met so far. -/
def runFrom (requeueDelay : Duration) (error : Option StepError) :
    List (Program StepResult) → Program Outcome
  | [] => return ⟨.idle, error⟩
  | step :: rest => do
    let result ← step
    let error := result.error.or error
    match result.action with
    | .proceed => runFrom requeueDelay error rest
    | .stop => return ⟨.soon, error⟩
    | .requeue => return ⟨.after requeueDelay, none⟩

def run (requeueDelay : Duration) (steps : List (Program StepResult)) : Program Outcome :=
  runFrom requeueDelay none steps

end Pass
end AgentOperator
