import AgentOperator.Condition.Rollout
import AgentOperator.Instance
import AgentOperator.Retry
import AgentOperator.Store.Program
import AgentOperator.Timestamp.Text

/-!
Writing the conditions of an instance after a pass. Every attempt reads the instance afresh, so the
decision to write and the version that the write names come from one read; a conflict is met with
another attempt. Nothing is written for an instance that is gone or going.
-/
namespace AgentOperator

inductive StatusWrite where
  | written
  /-- The stored conditions say the same already. -/
  | unchanged
  /-- The instance is gone or going. -/
  | skipped
  deriving DecidableEq, Repr

structure StatusWriter where
  kind : Kind
  key : Key
  /-- The workload whose rollout decides `Available`. -/
  workload : Key
  policy : RetryPolicy := {}

namespace StatusWriter

def slot (w : StatusWriter) : Slot := ⟨w.kind, w.key⟩

/-- The conditions in an object's status; what cannot be read counts as none. -/
def storedConditions (object : Object) : List Condition :=
  match (object.status?.bind (·.get? "conditions")).map (Decode.sequence Condition.decode) with
  | some (.ok conditions) => conditions
  | _ => []

def observe (w : StatusWriter) : Except StoreError Object → Except StoreError Rollout
  | .error error => .error error
  | .ok object =>
    match DaemonSet.decode object.encode with
    | .ok daemonSet => .ok (.ofDaemonSet daemonSet)
    | .error error =>
      .error (.request s!"malformed DaemonSet {w.workload.render}: {error.message}")

def attempt (w : StatusWriter) (passError : Option String) :
    Program (Except StoreError StatusWrite) := do
  match ← Program.get w.slot with
  | .error (.notFound _) => return .ok .skipped
  | .error error => return .error error
  | .ok object =>
    if object.metadata.isDeleting then return .ok .skipped
    else
      let workload ← Program.get ⟨.daemonSet, w.workload⟩
      let moment ← Program.now
      let (conditions, changed) := Condition.derive (storedConditions object)
        object.metadata.generation (w.observe workload) passError moment.wall.render
      if !changed then return .ok .unchanged
      else
        let status := Instance.encodeStatus conditions
        match ← Program.replaceStatus ⟨w.kind, object.withStatus (some status)⟩ with
        | .ok _ => return .ok .written
        | .error error => return .error error

def run (w : StatusWriter) (passError : Option String) :
    Program (Except StoreError StatusWrite) := do
  let outcome ← w.policy.run StoreError.isConflict Program.pause (w.attempt passError)
  match outcome with
  | .ok .written => Program.record .statusUpdate
  | .ok .unchanged => Program.record .statusSkipped
  | _ => pure ()
  return outcome

end StatusWriter
end AgentOperator
