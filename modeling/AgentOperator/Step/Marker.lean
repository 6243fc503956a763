import AgentOperator.Step.Result
import AgentOperator.Store.Program

/-!
The cleanup marker, a finalizer that holds an instance in the store until its explicit cleanup has
run. The decision is made on a fresh read, never on the caller's copy, and a write ends the pass.
-/
namespace AgentOperator

inductive MarkerTransition where
  | add
  | remove
  | steady
  deriving DecidableEq, Repr

namespace MarkerTransition

def decide (hasMarker isDeleting : Bool) : MarkerTransition :=
  match hasMarker, isDeleting with
  | true, true => .remove
  | false, false => .add
  | _, _ => .steady

def of (m : Metadata) (marker : String) : MarkerTransition :=
  decide (m.hasMarker marker) m.isDeleting

end MarkerTransition

namespace Metadata

/-- The marker goes behind the finalizers that are there. -/
def addMarker (m : Metadata) (marker : String) : Metadata :=
  { m with finalizers := some (m.finalizers.getD [] ++ [marker]) }

/-- Every occurrence goes, the others keep their order. -/
def removeMarker (m : Metadata) (marker : String) : Metadata :=
  { m with finalizers := m.finalizers.map (·.filter (· ≠ marker)) }

end Metadata

structure MarkerStep where
  kind : Kind
  key : Key
  marker : String
  deriving DecidableEq

namespace MarkerStep

def slot (s : MarkerStep) : Slot := ⟨s.kind, s.key⟩

def amended? (s : MarkerStep) (current : Object) : Option Object :=
  match MarkerTransition.of current.metadata s.marker with
  | .steady => none
  | .add => some (current.withMetadata (·.addMarker s.marker))
  | .remove => some (current.withMetadata (·.removeMarker s.marker))

def conclude (s : MarkerStep) : Except StoreError Object → StepResult
  | .ok _ => .stop
  | .error source => .fail .stop (.persist s.slot.ident source)

def run (s : MarkerStep) : Program StepResult := do
  match ← Program.get s.slot with
  | .error (.notFound _) => return .ok
  | .error source => return .fail .requeue (.refresh s.slot.ident source)
  | .ok current =>
    match s.amended? current with
    | none => return .ok
    | some changed =>
      let answer ← Program.replace ⟨s.kind, changed⟩
      return s.conclude answer

end MarkerStep
end AgentOperator
