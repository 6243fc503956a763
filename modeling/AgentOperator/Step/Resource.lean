import AgentOperator.Instance
import AgentOperator.Step.Result
import AgentOperator.Store.Program

/-!
The steps that bring one object about or take it away.

* Applying: an object that shares the owner's scope is applied with a reference to the owner and not
  without one; any other object is applied as it is. A race with another writer is no error but asks
  for the pass to be run again.
* Deleting: an object that is gone already counts as deleted.
* Making sure that a namespace exists: one that is there is left alone, whoever created it.
-/
namespace AgentOperator

/-- The reference comes last and replaces every reference to the same owner. -/
def Metadata.withOwner (m : Metadata) (reference : OwnerReference) : Metadata :=
  { m with
    ownerReferences :=
      some ((m.ownerReferences.getD []).filter (·.uid ≠ reference.uid) ++ [reference]) }

def Resource.withOwner (r : Resource) (reference : OwnerReference) : Resource :=
  { r with object := r.object.withMetadata (·.withOwner reference) }

structure ApplyStep where
  owner : Owner
  resource : Resource
  onError : Action := .proceed
  deriving DecidableEq

namespace ApplyStep

/-- What is sent: none if a reference is due and the owner has none. -/
def desired? (s : ApplyStep) : Option Resource :=
  if s.owner.sharesScope s.resource.object.metadata.ns then
    s.owner.reference.map s.resource.withOwner
  else some s.resource

def conclude (s : ApplyStep) : Except StoreError Object → StepResult
  | .ok _ => .ok
  | .error (.conflict _) | .error (.alreadyExists _) => .requeue
  | .error source => .fail s.onError (.apply s.resource.ident source)

def run (s : ApplyStep) : Program StepResult :=
  match s.desired? with
  | none => return .fail .stop (.ownerReference s.owner.ident s.resource.ident)
  | some desired => do
    let answer ← Program.apply desired Conventions.fieldManager true
    return s.conclude answer

end ApplyStep

structure DeleteStep where
  /-- Only its identity is needed. -/
  resource : Resource
  onError : Action := .proceed
  deriving DecidableEq

namespace DeleteStep

def conclude (s : DeleteStep) : Except StoreError Unit → StepResult
  | .ok () | .error (.notFound _) => .ok
  | .error source => .fail s.onError (.delete s.resource.ident source)

def run (s : DeleteStep) : Program StepResult := do
  let answer ← Program.delete s.resource.slot
  return s.conclude answer

end DeleteStep

structure ProvisionStep where
  resource : Resource
  deriving DecidableEq

namespace ProvisionStep

def conclude (s : ProvisionStep) : Except StoreError Object → StepResult
  | .ok _ | .error (.alreadyExists _) => .ok
  | .error source => .fail .stop (.apply s.resource.ident source)

def run (s : ProvisionStep) : Program StepResult := do
  match ← Program.get s.resource.slot with
  | .ok _ => return .ok
  | .error (.notFound _) =>
    let answer ← Program.create s.resource
    return s.conclude answer
  | .error source => return .fail .stop (.refresh s.resource.ident source)

end ProvisionStep

end AgentOperator
