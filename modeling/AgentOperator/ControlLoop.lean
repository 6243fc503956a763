import AgentOperator.Backoff
import AgentOperator.Credential.Expiry
import AgentOperator.Pass

/-!
One turn of a control loop and what comes after it. A turn ends with a request to be run again or
with an error; errors are counted per object, and with each the backoff of the object goes on. A
clean turn over an instance forgets its errors. The table of failures can always be had: nothing
that is done with it stops half-way.
-/
namespace AgentOperator

inductive TurnError where
  | pass (kind : String) (key : Key) (source : StepError)
  | expiry (key : Key) (source : StoreError)
  deriving DecidableEq, Repr

def TurnError.message : TurnError → String
  | .pass kind key source => s!"reconciliation of {kind} {key.render} failed: {source.message}"
  | .expiry key source => s!"credential expiry check of {key.render} failed: {source.message}"

inductive Requeue where
  | awaitChange
  | after (delay : Duration)
  deriving DecidableEq, Repr

def Schedule.requeue (schedule : Schedule) (idleRequeue : Option Duration) : Requeue :=
  match schedule, idleRequeue with
  | .soon, _ => .after .zero
  | .after delay, _ => .after delay
  | .idle, some interval => .after interval
  | .idle, none => .awaitChange

def Schedule.requeueReason? : Schedule → Option String
  | .soon => some "step-stop"
  | .after _ => some "step-requeue"
  | .idle => none

namespace Instance

def conclusion (i : Instance) (settings : Settings) (outcome : Outcome) :
    Except TurnError Requeue :=
  match outcome.error with
  | some source => .error (.pass i.kind.name i.key source)
  | none => .ok (outcome.schedule.requeue (i.idleRequeue settings))

def reconcile (i : Instance) (settings : Settings) (policy : RetryPolicy) :
    Program (Except TurnError Requeue) := do
  Program.record (.reconciliation i.kind.name)
  let start ← Program.now
  let outcome ← i.pass settings policy
  let finish ← Program.now
  let spent : Duration := ⟨finish.elapsed.nanos - start.elapsed.nanos⟩
  Program.record (.duration i.kind.name spent.toSeconds)
  if outcome.error.isNone then
    match outcome.schedule.requeueReason? with
    | some reason => Program.record (.requeue reason)
    | none => pure ()
  return i.conclusion settings outcome

end Instance

namespace Secret

/-- A deletion brings about the next pass of the agent by itself. -/
def requeue : ExpiryDecision → Requeue
  | .recheck delay => .after delay
  | .delete _ => .awaitChange

def reconcile (s : Secret) (settings : Settings) : Program (Except TurnError Requeue) := do
  let moment ← Program.now
  if s.metadata.isDeleting then return .ok .awaitChange
  else
    let decision ←
      Expiry.enforce s.metadata.key s.metadata.annotations moment.wall settings.refreshInterval
    match decision with
    | .ok decision => return .ok (requeue decision)
    | .error source => return .error (.expiry s.metadata.key source)

end Secret

abbrev FailureTable := Fields Backoff.History

namespace FailureTable

/-- After a clean turn over an instance. An object that never failed has no entry and gets none. -/
def forget (table : FailureTable) (key : String) : FailureTable :=
  match Fields.get? table key with
  | some history => Fields.insert table key history.reset
  | none => table

def history (table : FailureTable) (settings : Settings) (key : String) : Backoff.History :=
  (Fields.get? table key).getD (.start settings.backoffFloor settings.backoffCeiling)

def delay (table : FailureTable) (settings : Settings) (key : String) : Nat :=
  (history table settings key).backoff.delay

def countError (table : FailureTable) (settings : Settings) (key : String) : FailureTable :=
  Fields.insert table key (history table settings key).countError.advance

def errorCounts (table : FailureTable) : Fields Nat := Fields.mapValues (·.errors) table

end FailureTable

inductive Subject where
  | managed (i : Instance)
  | credential (s : Secret)
  deriving DecidableEq

namespace Subject

def kind : Subject → Kind
  | .managed i => i.kind
  | .credential _ => .secret

def failureKey : Subject → String
  | .managed i => i.failureKey
  | .credential s => s.failureKey

def turn (subject : Subject) (settings : Settings) (policy : RetryPolicy) :
    Program (Except TurnError Requeue) :=
  match subject with
  | .managed i => i.reconcile settings policy
  | .credential s => s.reconcile settings

/-- The table after a clean turn. Only instances start over. -/
def forgive (subject : Subject) (table : FailureTable) : FailureTable :=
  match subject with
  | .managed i => table.forget i.failureKey
  | .credential _ => table

def failureMeasurements (subject : Subject) : List Measurement :=
  [.reconciliationError subject.kind.name, .requeue "error-backoff"]

/-- When to look again after a turn, the table as it is then, and what is measured on the way. -/
def settle (subject : Subject) (settings : Settings) (table : FailureTable) :
    Except TurnError Requeue → Requeue × FailureTable × List Measurement
  | .ok requeue => (requeue, subject.forgive table, [])
  | .error _ =>
    let key := subject.failureKey
    (.after (.ofSecs (table.delay settings key)), table.countError settings key,
      subject.failureMeasurements)

end Subject
end AgentOperator
