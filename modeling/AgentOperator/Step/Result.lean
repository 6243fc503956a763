import AgentOperator.Duration
import AgentOperator.Object.Key
import AgentOperator.Store.Program

/-! How a step ends: how the pass goes on, and the error that it met, which names its object. -/
namespace AgentOperator

inductive Action where
  /-- On to the next step. -/
  | proceed
  /-- End the pass and run it again after a short delay. Errors are dropped: what was read was
  stale, and the next pass is expected to succeed. -/
  | requeue
  /-- End the pass and run it again soon. -/
  | stop
  deriving DecidableEq, Repr

inductive StepError where
  | apply (object : Ident) (source : StoreError)
  | delete (object : Ident) (source : StoreError)
  | ownerReference (owner object : Ident)
  | refresh (object : Ident) (source : StoreError)
  | persist (object : Ident) (source : StoreError)
  | status (object : Ident) (source : StoreError)
  | missingDependency (object : Ident) (waited : Duration)
  | token (account : Ident) (source : StoreError)
  | store (source : StoreError)
  deriving DecidableEq, Repr

def StepError.message : StepError → String
  | .apply object source => s!"failed to apply {object.render}: {source.message}"
  | .delete object source => s!"failed to delete {object.render}: {source.message}"
  | .ownerReference owner object =>
    s!"cannot set owner reference from {owner.render} on {object.render}: owner has no name or uid"
  | .refresh object source => s!"failed to refresh {object.render}: {source.message}"
  | .persist object source => s!"failed to persist {object.render}: {source.message}"
  | .status object source => s!"failed to update status of {object.render}: {source.message}"
  | .missingDependency object waited =>
    s!"{object.render} not found after waiting {waited.secs}s"
  | .token account source => s!"failed to issue token for {account.render}: {source.message}"
  | .store source => source.message

structure StepResult where
  action : Action := .proceed
  error : Option StepError := none
  deriving DecidableEq, Repr

namespace StepResult

def ok : StepResult := {}

def requeue : StepResult := { action := .requeue }

def stop : StepResult := { action := .stop }

def fail (action : Action) (error : StepError) : StepResult := ⟨action, some error⟩

def isOk (r : StepResult) : Bool := r.action = .proceed && r.error.isNone

end StepResult
end AgentOperator
