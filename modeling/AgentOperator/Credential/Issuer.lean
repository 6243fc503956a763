import AgentOperator.Credential.Expiry
import AgentOperator.Manifest.Credential
import AgentOperator.Step.Resource
import AgentOperator.Store.Poll

/-!
Issuing an agent's credential. Without credentials the secret is deleted. With them the step waits
for the service account, keeps a secret that is still good for longer than the expiry buffer, and
otherwise requests a token and applies a secret with it. The buffer and the lifetime of a token are
short against the calendar, and instants moved by them are taken to stay in it.
-/
namespace AgentOperator

structure CredentialStep where
  owner : Owner
  blueprint : Blueprint
  enabled : Bool
  accountTimeout : Duration
  existingTimeout : Duration := Conventions.existingSecretTimeout
  pollInterval : Duration := Conventions.pollInterval
  ttl : Duration := Conventions.tokenTtl
  expiryBuffer : Duration := Conventions.expiryBuffer
  deriving DecidableEq

namespace CredentialStep

def secretSlot (s : CredentialStep) : Slot := ⟨.secret, s.blueprint.secretKey⟩

def accountSlot (s : CredentialStep) : Slot := ⟨.serviceAccount, s.blueprint.workloadKey⟩

/-- A span of time that is too long to be added to an instant counts as none. -/
def reach (d : Duration) : Int := (Expiry.span? d).getD 0

def needsRotation (s : CredentialStep) (secret : Object) (now : Timestamp) : Bool :=
  match Expiry.recorded secret.metadata.annotations with
  | .error _ => true
  | .ok expiresAt => expiresAt.shift (-(reach s.expiryBuffer)) ≤ now

def remove (s : CredentialStep) : Program StepResult :=
  DeleteStep.run { resource := (Manifest.credentialIdentity s.blueprint).resource }

def issue (s : CredentialStep) (now : Timestamp) : Program StepResult := do
  match ← Program.requestToken s.accountSlot.key ⟨Conventions.audiences, s.ttl⟩ with
  | .error source => return .fail .stop (.token s.accountSlot.ident source)
  | .ok token =>
    let credential := ⟨token, now.shift (reach s.ttl)⟩
    let secret := (Manifest.credentialSecret s.blueprint credential).resource
    let result ← ApplyStep.run { owner := s.owner, resource := secret, onError := .stop }
    if result.isOk then Program.record .rotation
    return result

def run (s : CredentialStep) : Program StepResult :=
  if !s.enabled then s.remove
  else do
    match ← Program.poll s.accountSlot ⟨s.pollInterval, s.accountTimeout⟩ with
    | .error source => return .fail .stop (.refresh s.accountSlot.ident source)
    | .ok none => return .fail .stop (.missingDependency s.accountSlot.ident s.accountTimeout)
    | .ok (some _) =>
      let moment ← Program.now
      match ← Program.poll s.secretSlot ⟨s.pollInterval, s.existingTimeout⟩ with
      | .error source => return .fail .stop (.refresh s.secretSlot.ident source)
      | .ok none => s.issue moment.wall
      | .ok (some existing) =>
        if s.needsRotation existing moment.wall then s.issue moment.wall else return .ok

end CredentialStep
end AgentOperator
