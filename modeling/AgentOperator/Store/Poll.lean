import AgentOperator.Store.Program

/-!
Waiting for an object that somebody else creates. It is looked for at once and then at every
interval, as long as the next look would not come after the deadline. Deadline and next look are
sums of a reading of the clock and a span; the spans in use are far below what a clock can show, so
the sums are exact.
-/
namespace AgentOperator

structure PollWindow where
  interval : Duration
  timeout : Duration
  deriving DecidableEq, Repr

namespace PollWindow

/-- No more looks than these fit the window, as time passes between them. -/
def looks (w : PollWindow) : Nat := w.timeout.nanos / max w.interval.asSleep.nanos 1 + 1

end PollWindow

/-- At most `looks` looks; none is found if the last comes to nothing. -/
def Program.lookUntil (slot : Slot) (interval deadline : Duration) :
    Nat → Program (Except StoreError (Option Object))
  | 0 => return .ok none
  | looks + 1 => do
    match ← Program.get slot with
    | .ok object => return .ok (some object)
    | .error (.notFound _) =>
      let moment ← Program.now
      if deadline < moment.elapsed + interval then return .ok none
      else
        Program.pause interval
        lookUntil slot interval deadline looks
    | .error error => return .error error

def Program.poll (slot : Slot) (window : PollWindow) :
    Program (Except StoreError (Option Object)) := do
  let start ← Program.now
  lookUntil slot window.interval (start.elapsed + window.timeout) window.looks

end AgentOperator
