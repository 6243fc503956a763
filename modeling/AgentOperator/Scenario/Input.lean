import AgentOperator.Blueprint
import AgentOperator.Condition.Rollout
import AgentOperator.Retry
import AgentOperator.Step.Result
import AgentOperator.Store.Program

/-!
Scenarios are JSON texts that say what to do with the operator. This is how their parts are read.
What does not follow the form is refused, and so is an object that cannot be decoded.
-/
namespace AgentOperator.Scenario

inductive Refusal where
  | badInput (message : Option String)
  | decode

abbrev Reading (α : Type) := Except Refusal α

def badInput {α : Type} : Reading α := .error (.badInput none)

def need {α : Type} : Option α → Reading α
  | some value => .ok value
  | none => badInput

def decoded {α : Type} : Decoded α → Reading α
  | .ok value => .ok value
  | .error _ => .error .decode

namespace Input

def field (json : Json) (name : String) : Reading Json := need (json.get? name)

def text (json : Json) (name : String) : Reading String := do need (← field json name).str?

def textD (json : Json) (name fallback : String) : String :=
  ((json.get? name).bind Json.str?).getD fallback

def items (json : Json) (name : String) : Reading (List Json) := do need (← field json name).arr?

def itemsD (json : Json) (name : String) : Reading (List Json) :=
  match json.get? name with
  | none | some .null => .ok []
  | some (.arr items) => .ok items
  | some _ => badInput

def nat (json : Json) (name : String) : Reading Nat := do need (← field json name).nat?

def natD (json : Json) (name : String) (fallback : Nat) : Nat :=
  ((json.get? name).bind Json.nat?).getD fallback

def flag (json : Json) (name : String) : Bool := ((json.get? name).bind Json.bool?).getD false

def textOrNull (json : Json) (name : String) : Reading (Option String) :=
  match json.get name with
  | .null => .ok none
  | .str value => .ok (some value)
  | _ => badInput

def intOrNull (json : Json) (name : String) : Reading (Option Int) :=
  match json.get name with
  | .null => .ok none
  | .int value => .ok (some value)
  | _ => badInput

def duration (json : Json) : Reading Duration :=
  match json with
  | .obj _ => .ok (.ofParts (natD json "secs" 0) (natD json "nanos" 0))
  | _ => badInput

def durationD (json : Json) (name : String) (fallback : Duration) : Reading Duration :=
  match json.get? name with
  | none | some .null => .ok fallback
  | some value => duration value

def number (json : Json) : Reading Float :=
  match json with
  | .int value => .ok (Float.ofInt value)
  | .float bits => .ok (Float.ofBits bits)
  | _ => badInput

def time (json : Json) (name : String) : Reading Timestamp := do
  need (Timestamp.read? (← text json name))

def key (json : Json) (name : String) : Reading Key := return .parse (← text json name)

def ident (json : Json) : Reading Ident := return ⟨← text json "kind", ← key json "key"⟩

def kind (json : Json) : Reading Kind := do need (Kind.ofName? (← text json "kind"))

def slot (json : Json) : Reading Slot := return ⟨← kind json, ← key json "key"⟩

def action (json : Json) (name : String) : Reading Action :=
  match json.get? name with
  | none => .ok .proceed
  | some (.str "continue") => .ok .proceed
  | some (.str "requeue") => .ok .requeue
  | some (.str "stop") => .ok .stop
  | some _ => badInput

def storeError (json : Json) : Reading StoreError := do
  let message ← text json "message"
  match ← text json "kind" with
  | "NotFound" => return .notFound message
  | "Conflict" => return .conflict message
  | "AlreadyExists" => return .alreadyExists message
  | "Request" => return .request message
  | _ => badInput

def settings (json : Json) : Reading Settings := do
  match json.get? "config" with
  | none | some .null => return {}
  | some config =>
    let base : Settings := {}
    return { base with
      defaultImage := textD config "default_image" base.defaultImage
      platform := if flag config "managed" then .managed else .standard
      requeueDelay := ← durationD config "requeue_delay" base.requeueDelay
      refreshInterval := ← durationD config "token_refresh_interval" base.refreshInterval
      backoffFloor := natD config "error_backoff_min_secs" base.backoffFloor
      backoffCeiling := natD config "error_backoff_max_secs" base.backoffCeiling }

def policy (json : Option Json) : Reading RetryPolicy := do
  let base : RetryPolicy := {}
  match json with
  | none | some .null => return base
  | some json =>
    return {
      maxAttempts := natD json "max_attempts" base.maxAttempts
      initialDelay := ← durationD json "initial_delay" base.initialDelay
      maxDelay := ← durationD json "max_delay" base.maxDelay
      multiplier := ← match json.get? "multiplier" with
        | none => pure base.multiplier
        | some value => number value }

def asInstance (json : Json) : Reading Instance := do decoded (← need (Instance.decode? json))

def conditions (json : Json) (name : String) : Reading (List Condition) := do
  decoded (Decode.sequence Condition.decode (← field json name))

def textMap (json : Json) : Reading (Fields String) := do
  let fields ← need json.obj?
  fields.mapM fun entry => return (entry.1, ← need entry.2.str?)

def annotations (json : Json) : Reading (Option (Fields String)) :=
  decoded (Decode.optional Decode.textMap (json.get "annotations"))

def countNames : List String :=
  ["desired", "current", "ready", "updated", "available", "unavailable"]

def generationNames : List String := ["generation", "observed_generation"]

def counterShape : Shape :=
  .record "Counters" .strict (
    countNames.map (fun name => (name, .given, .int32)) ++
    generationNames.map fun name => (name, .free, .int64))

/-- Counters that were checked; they may be written as a list in the order of their names. -/
def counters (json : Json) : Reading Rollout := do
  decoded (counterShape.check json)
  let members := match json with
    | .arr items => Json.object ((countNames ++ generationNames).zip items)
    | other => other
  let count (name : String) : Int := (members.member? name Json.int?).getD 0
  return {
    desired := count "desired"
    current := count "current"
    ready := count "ready"
    updated := count "updated"
    available := count "available"
    unavailable := count "unavailable"
    generation := members.member? "generation" Json.int?
    observedGeneration := members.member? "observed_generation" Json.int? }

def workload (json : Json) : Reading (Except StoreError Rollout) := do
  let json ← field json "workload"
  match json.get? "counters", json.get? "daemon_set", json.get? "error" with
  | some json, _, _ => return .ok (← counters json)
  | none, some daemonSet, _ => return .ok (.ofDaemonSet (← decoded (DaemonSet.decode daemonSet)))
  | none, none, some error => return .error (← storeError error)
  | none, none, none => badInput

def blueprintParts (json : Json) : Decoded Blueprint := do
  let fields ← Decode.members "object" json
  let required (name : String) : Decoded String := do
    Decode.require name (← Decode.present fields name Decode.text)
  let app ← required "app"
  return {
    app := if app = Conventions.scannerApp then .scanner else .agent
    instanceName := ← required "instance"
    ns := ← required "namespace"
    name := ← required "name"
    clusterName := ← required "cluster_name"
    image := ← required "image"
    port := ← Decode.member fields "port" Decode.int32
    config := (← Decode.member fields "config" Decode.textMap).getD []
    nodeSelector := ← Decode.member fields "node_selector" Decode.textMap
    rules := (← Decode.member fields "rules" (Decode.sequence PolicyRule.decode)).getD []
    credentialSecret := ← Decode.member fields "credential_secret" Decode.text
    hostFilesystem := (← Decode.member fields "host_filesystem" Decode.boolean).getD false }

def blueprint (json : Json) : Reading Blueprint := do
  match json.get? "params" with
  | some params => decoded (blueprintParts params)
  | none => return .ofInstance (← asInstance (← field json "instance")) (← settings json)

end Input

end AgentOperator.Scenario
