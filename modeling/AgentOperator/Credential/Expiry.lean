import AgentOperator.Conventions
import AgentOperator.Store.Program
import AgentOperator.Timestamp.Text

/-!
When a credential goes. The secret records when its token expires; it is deleted two refresh
intervals before that, and at once if the record is missing or unreadable. Otherwise it is looked at
again exactly when it is due.
-/
namespace AgentOperator

inductive DeleteReason where
  | missingExpiration
  | invalidExpiration
  | expiring
  deriving DecidableEq, Repr

def DeleteReason.name : DeleteReason → String
  | .missingExpiration => "missing-expiration"
  | .invalidExpiration => "invalid-expiration"
  | .expiring => "expiring"

inductive ExpiryDecision where
  | delete (reason : DeleteReason)
  | recheck (after : Duration)
  deriving DecidableEq, Repr

namespace Expiry

def recorded (annotations : Option (Fields String)) : Except DeleteReason Timestamp :=
  match (annotations.getD []).get? Conventions.expirationAnnotation with
  | none => .error .missingExpiration
  | some text =>
    match Timestamp.read? text with
    | none => .error .invalidExpiration
    | some expiresAt => .ok expiresAt

def longestSpan : Int := 9223372036854775807 * Duration.nanosPerMilli

/-- A span of time as a signed one, if it is not too long. -/
def span? (d : Duration) : Option Int :=
  if (d.nanos : Int) ≤ longestSpan then some d.nanos else none

/-- Two refresh intervals before the expiration. What would lie before the calendar is its first
instant. -/
def trigger (expiresAt : Timestamp) (refresh : Duration) : Timestamp :=
  let lead := (span? refresh.double).getD longestSpan
  (expiresAt.shift? (-lead)).getD .earliest

def decide (annotations : Option (Fields String)) (now : Timestamp) (refresh : Duration) :
    ExpiryDecision :=
  match recorded annotations with
  | .error reason => .delete reason
  | .ok expiresAt =>
    let remaining := (trigger expiresAt refresh).since now
    if 0 < remaining then .recheck ⟨remaining.toNat⟩ else .delete .expiring

/-- Carries out the decision on one secret. One that is gone already counts as deleted, by whom is
not known, so it is not measured. -/
def enforce (key : Key) (annotations : Option (Fields String)) (now : Timestamp)
    (refresh : Duration) : Program (Except StoreError ExpiryDecision) :=
  let decision := decide annotations now refresh
  match decision with
  | .recheck _ => return .ok decision
  | .delete reason => do
    match ← Program.delete ⟨.secret, key⟩ with
    | .ok () =>
      Program.record (.deletion reason.name)
      return .ok decision
    | .error (.notFound _) => return .ok decision
    | .error error => return .error error

end Expiry

/-- A secret as the expiry loop sees it: the metadata, once the whole has proved readable. -/
structure Secret where
  metadata : Metadata
  deriving DecidableEq

namespace Secret

def shape : Shape :=
  .declared Kind.secret.name Kind.secret.apiVersion [
    ("data", .mapping .octets), ("immutable", .flag), ("metadata", Metadata.shape),
    ("stringData", .textMap), ("type", .text)]

def ofJson (json : Json) : Secret :=
  { metadata := ((json.get? "metadata").map Metadata.ofJson).getD {} }

def decode (json : Json) : Decoded Secret := do
  shape.check json
  return ofJson json

def failureKey (s : Secret) : String :=
  Kind.secret.name ++ "/" ++ s.metadata.ns.getD "" ++ "/" ++ s.metadata.name.getD "unknown"

end Secret

end AgentOperator
