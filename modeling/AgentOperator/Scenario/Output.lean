import AgentOperator.ControlLoop

/-! How the answers to scenarios are written. -/
namespace AgentOperator

/-- The status of a condition that says nothing. -/
def ConditionStatus.neutral : ConditionStatus := .unknown

namespace Scenario.Output

def duration (d : Duration) : Json :=
  .object [("secs", .nat d.secs), ("nanos", .nat d.subsecNanos)]

def optional {α : Type} (f : α → Json) (value : Option α) : Json := .ofOption f value

def storeErrorKind : StoreError → String
  | .notFound _ => "NotFound"
  | .conflict _ => "Conflict"
  | .alreadyExists _ => "AlreadyExists"
  | .request _ => "Request"

def stepErrorKind : StepError → String
  | .apply .. => "Apply"
  | .delete .. => "Delete"
  | .ownerReference .. => "OwnerReference"
  | .refresh .. => "Refresh"
  | .persist .. => "Persist"
  | .status .. => "Status"
  | .missingDependency .. => "MissingDependency"
  | .token .. => "Token"
  | .store .. => "Store"

def stepError (error : StepError) : Json :=
  .object [("kind", .str (stepErrorKind error)), ("text", .str error.message)]

def action : Action → Json
  | .proceed => .str "continue"
  | .requeue => .str "requeue"
  | .stop => .str "stop"

def schedule : Schedule → Json
  | .idle => .str "idle"
  | .soon => .str "soon"
  | .after delay => .object [("after", duration delay)]

def requeue : Requeue → Json
  | .awaitChange => .str "await_change"
  | .after delay => .object [("requeue", duration delay)]

def conditions (list : List Condition) : Json := .arr (list.map Condition.encode)

/-- Two conditions beside each other, and the status that a condition has before it says anything.
-/
def comparison (a b : Condition) : Json :=
  .object [
    ("same", .bool (a.sameObservation b)), ("equal", .bool (a = b)), ("a", a.encode),
    ("statuses", .strs [a.status.name, b.status.name]),
    ("default", .str ConditionStatus.neutral.name)]

def verdict (v : Verdict) : List (String × Json) :=
  [("status", .str v.status.name), ("reason", .str v.reason), ("message", .str v.message)]

def rollout (r : Rollout) : Json :=
  .object [
    ("desired", .int r.desired), ("current", .int r.current), ("ready", .int r.ready),
    ("updated", .int r.updated), ("available", .int r.available),
    ("unavailable", .int r.unavailable), ("generation", optional .int r.generation),
    ("observed_generation", optional .int r.observedGeneration)]

def decision : ExpiryDecision → Json
  | .delete reason => .object [("delete", .str reason.name)]
  | .recheck delay => .object [("recheck_in", duration delay)]

def transition : MarkerTransition → Json
  | .add => .str "AddMarker"
  | .remove => .str "RemoveMarker"
  | .steady => .str "Steady"

def resource (r : Resource) : Json :=
  .object [
    ("id", .str r.ident.render), ("key", .str r.key.render),
    ("resource", .object [
      ("group", .str r.kind.group), ("version", .str r.kind.version),
      ("api_version", .str r.kind.apiVersion), ("kind", .str r.kind.name),
      ("plural", .str r.kind.plural)]),
    ("object", r.object.encode)]

def blueprint (b : Blueprint) : Json :=
  .object [
    ("app", .str b.app.name), ("instance", .str b.instanceName), ("namespace", .str b.ns),
    ("name", .str b.name), ("cluster_name", .str b.clusterName), ("image", .str b.image),
    ("port", optional .int b.port), ("config", .strMap b.config),
    ("node_selector", optional .strMap b.nodeSelector),
    ("rules", .arr (b.rules.map PolicyRule.encode)),
    ("credential_secret", optional .str b.credentialSecret),
    ("host_filesystem", .bool b.hostFilesystem), ("labels", .strMap b.labels),
    ("selector_labels", .strMap b.selectorLabels)]

def step (s : Step) : Json :=
  let describe := ("describe", Json.str s.describe)
  match s with
  | .apply step =>
    .object [describe, ("on_error", action step.onError), ("object", step.resource.object.encode)]
  | .delete step =>
    .object [describe, ("on_error", action step.onError), ("object", step.resource.object.encode)]
  | .provision step => .object [describe, ("object", step.resource.object.encode)]
  | .credential step =>
    .object [
      describe, ("enabled", .bool step.enabled),
      ("account_timeout", duration step.accountTimeout),
      ("existing_timeout", duration step.existingTimeout),
      ("poll_interval", duration step.pollInterval), ("ttl", duration step.ttl),
      ("expiry_buffer", duration step.expiryBuffer)]
  | .marker _ => .object [describe]

end Scenario.Output
end AgentOperator
