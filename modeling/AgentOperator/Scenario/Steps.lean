import AgentOperator.World.Session
import AgentOperator.Metrics.Exposition
import AgentOperator.Scenario.Input
import AgentOperator.Scenario.Output

/-! Scenarios that run the operator in a world of its own, step after step. -/
namespace AgentOperator.Scenario

namespace Steps

inductive Ending where
  | result (value : Json)
  | failed (kind : String) (message : Option String)

def storeFailure (error : StoreError) : Ending :=
  .failed (Output.storeErrorKind error) (some error.message)

def resource (json : Json) : Reading Resource :=
  return ⟨← Input.kind json, ← decoded (Object.decode json)⟩

def stepOwner (json : Json) : Reading Owner := do
  match json.get? "instance" with
  | some value => return .ofInstance (← Input.asInstance value)
  | none =>
    return {
      ident := ← Input.ident json
      reference := ← decoded (Decode.optional OwnerReference.decode (json.get "reference")) }

def step (json : Json) : Reading (Program StepResult × String) := do
  let made (s : Step) := (s.run, s.describe)
  match ← Input.text json "type" with
  | "apply" =>
    return made (.apply {
      owner := ← stepOwner (← Input.field json "owner")
      resource := ← resource (← Input.field json "object")
      onError := ← Input.action json "on_error" })
  | "delete" =>
    return made (.delete {
      resource := ← resource (← Input.field json "object")
      onError := ← Input.action json "on_error" })
  | "ensure_namespace" => return made (.provision ⟨← resource (← Input.field json "object")⟩)
  | "finalize" =>
    return made (.marker ⟨← Input.kind json, ← Input.key json "key", ← Input.text json "marker"⟩)
  | "credentials" =>
    let i ← Input.asInstance (← Input.field json "instance")
    match i.spec with
    | .scanner _ => badInput
    | .agent spec =>
      let base := i.credentialStep spec (← Input.settings json)
      return made (.credential { base with
        accountTimeout := ← Input.durationD json "account_timeout" base.accountTimeout
        existingTimeout := ← Input.durationD json "existing_timeout" base.existingTimeout
        pollInterval := ← Input.durationD json "poll_interval" base.pollInterval
        ttl := ← Input.durationD json "ttl" base.ttl
        expiryBuffer := ← Input.durationD json "expiry_buffer" base.expiryBuffer })
  | "scripted" =>
    let action ← Input.action json "action"
    let error ← match json.get? "error" with
      | none | some .null => pure none
      | some error => (Input.storeError error).map some
    return (pure ⟨action, error.map .store⟩, "scripted")
  | _ => badInput

def errorCounts (s : Session) : Json := .obj (s.failures.errorCounts.mapValues .nat)

def fault (json : Json) : Reading FaultRule := do
  return {
    verb := ← need (Verb.ofName? (← Input.text json "call"))
    kind := ← match json.get? "kind" with
      | none => pure none
      | some _ => (Input.kind json).map some
    name := ← Input.textOrNull json "name"
    skip := Input.natD json "skip" 0
    times := (json.get? "times").bind Json.nat?
    error := ← Input.storeError (← Input.field json "error") }

def subject (s : Session) (json : Json) : Reading (Except StoreError Json) := do
  match json.get? "object", json.get? "from" with
  | some object, _ => return .ok object
  | none, some (.str name) => return .ok (← need (s.copies.get? name)).encode
  | none, _ => return (s.stored (← Input.slot json)).map Object.encode

def outcome (o : Outcome) : Json :=
  .object [
    ("schedule", Output.schedule o.schedule), ("error", Output.optional Output.stepError o.error)]

def turn (s : Session) (subject : Subject) (policy : Bool) : Ending × Session :=
  let counts (s : Session) : List (String × Json) :=
    match subject with
    | .managed _ => [("error_counts", errorCounts s)]
    | .credential _ => []
  let (result, s) := s.turn subject
  match result, policy with
  | .ok requeue, _ => (.result (.object (("action", Output.requeue requeue) :: counts s)), s)
  | .error error, true =>
    let (requeue, s) := s.handleError subject error
    (.result (.object [
      ("failed", .str error.message), ("action", Output.requeue requeue),
      ("error_counts", errorCounts s)]), s)
  | .error error, false =>
    let kind := match error with
      | .pass .. => "Pass"
      | .expiry .. => "Expiry"
    (.failed kind (some error.message), s)

/-- Steps that change the store only. -/
def dataStep? (s : Session) (json : Json) : Reading (Option (Ending × Session)) := do
  let version (object : Object) : Ending :=
    .result (.object [
      ("resource_version", Output.optional .str object.metadata.resourceVersion)])
  let found (slot : Slot) (f : Object → Reading (Ending × Session)) :
      Reading (Option (Ending × Session)) :=
    match s.stored slot with
    | .ok object => (f object).map some
    | .error error => .ok (some (storeFailure error, s))
  match ← Input.text json "do" with
  | "put" =>
    let r ← resource (← Input.field json "object")
    let (object, s) := s.put r.slot r.object
    return some (version object, s)
  | "edit" =>
    let slot ← Input.slot json
    let patch ← Input.field json "patch"
    found slot fun object => do
      let (object, s) ← decoded (s.edit slot object patch)
      return (version object, s)
  | "drop" => return some (.result .null, s.drop (← Input.slot json))
  | "user_delete" =>
    let (answer, s) := s.userDelete (← Input.slot json)
    match answer with
    | .ok () => return some (.result .null, s)
    | .error error => return some (storeFailure error, s)
  | "copy" =>
    let name ← Input.text json "as"
    found (← Input.slot json) fun object => return (.result .null, s.keep name object)
  | "fail" => return some (.result .null, s.addFault (← fault json))
  | "heal" => return some (.result .null, s.heal)
  | _ => return none

def stepKind (json : Json) (s : Session) : Reading (Ending × Session) := do
  match ← Input.text json "do" with
  | "show" =>
    match s.stored (← Input.slot json) with
    | .ok object => return (.result object.encode, s)
    | .error error => return (storeFailure error, s)
  | "dump" =>
    return (.result (.arr (s.world.cluster.inventory.map fun entry => entry.2.encode)), s)
  | "keys" =>
    return (.result (.arr (s.world.cluster.inventory.map fun (slot, object) =>
      .arr [.str slot.kind.name, .str slot.key.render,
        Output.optional .str object.metadata.resourceVersion])), s)
  | "advance" =>
    let s := s.advance (← Input.duration json)
    return (.result (.str s.world.now.render), s)
  | "pass" =>
    match ← subject s json with
    | .error error => return (storeFailure error, s)
    | .ok object =>
      let i ← Input.asInstance object
      let (o, s) := s.run (i.pass s.settings s.policy)
      return (.result (outcome o), s)
  | "reconcile" =>
    match ← subject s json with
    | .error error => return (storeFailure error, s)
    | .ok object =>
      return turn s (.managed (← Input.asInstance object)) (Input.flag json "policy")
  | "credential" =>
    match ← subject s json with
    | .error error => return (storeFailure error, s)
    | .ok object =>
      return turn s (.credential (← decoded (Secret.decode object))) (Input.flag json "policy")
  | "reset_backoff" =>
    let key ← Input.text json "resource_key"
    let s := { s with failures := s.failures.forget key }
    return (.result (errorCounts s), s)
  | "expire" =>
    let annotations ← match json.get? "expiration" with
      | some (.str text) => pure (some [(Conventions.expirationAnnotation, text)])
      | _ => Input.annotations json
    let refresh ← Input.durationD json "refresh" .zero
    let (result, s) :=
      s.run (Expiry.enforce (← Input.key json "key") annotations s.world.now refresh)
    match result with
    | .ok decision => return (.result (Output.decision decision), s)
    | .error error => return (storeFailure error, s)
  | "step" =>
    let (program, describe) ← step (← Input.field json "step")
    let (result, s) := s.run program
    return (.result (.object [
      ("action", Output.action result.action),
      ("error", Output.optional Output.stepError result.error),
      ("is_ok", .bool result.isOk), ("describe", .str describe)]), s)
  | "run" =>
    let steps ← (← Input.items json "steps").mapM fun item => do return (← step item).1
    let (o, s) := s.run (Pass.run (← Input.durationD json "delay" .zero) steps)
    return (.result (outcome o), s)
  | "persist" =>
    let writer : StatusWriter := {
      kind := ← Input.kind json
      key := ← Input.key json "key"
      workload := ← Input.key json "workload"
      policy := ← Input.policy (json.get? "policy") }
    let (result, s) := s.run (writer.run (← Input.textOrNull json "pass_error"))
    match result with
    | .ok .written => return (.result (.str "written"), s)
    | .ok .unchanged => return (.result (.str "unchanged"), s)
    | .ok .skipped => return (.result (.str "skipped"), s)
    | .error error => return (storeFailure error, s)
  | "poll" =>
    let window := ⟨← Input.durationD json "interval" .zero, ← Input.durationD json "timeout" .zero⟩
    let (result, s) := s.run (Program.poll (← Input.slot json) window)
    match result with
    | .ok object => return (.result (.object [("found", .bool object.isSome)]), s)
    | .error error => return (storeFailure error, s)
  | _ => badInput

def oneStep (json : Json) (s : Session) : Reading (Ending × Session) := do
  let attempt : Reading (Ending × Session) := do
    match ← dataStep? s json with
    | some done => return done
    | none => stepKind json s
  match attempt with
  | .error .decode => return (.failed "decode" none, s)
  | other => other

def detail (full : Bool) : Call → Option Json
  | .requestToken _ request =>
    some (.object [("audiences", .strs request.audiences), ("ttl", Output.duration request.ttl)])
  | .create r | .replace r | .replaceStatus r => if full then some r.object.encode else none
  | .apply r manager force =>
    if full then
      some (.object [
        ("manager", .str manager), ("force", .bool force), ("object", r.object.encode)])
    else none
  | .get _ | .delete _ => none

def callRecord (start : Duration) (full : Bool) (record : CallRecord) : Json :=
  let outcome := (record.error.map Output.storeErrorKind).getD "ok"
  .arr ([
    .nat (Duration.floorMillis ⟨record.time.nanos - start.nanos⟩), .str record.call.verb.name,
    .str record.call.slot.kind.name, .str record.call.slot.key.render, .str outcome] ++
    (detail full record.call).toList)

def counts (list : List (String × Nat)) : Json := .object (list.map fun (name, n) => (name, .nat n))

def start (input : Json) : Reading Session := do
  let now ← match input.get? "now" with
    | none => need (Timestamp.read? "2026-10-16T12:00:00Z")
    | some _ => Input.time input "now"
  return {
    world := { start := now }
    settings := ← Input.settings input
    policy := ← Input.policy (input.get? "status_retry") }

def run (input : Json) : Reading Json := do
  let full := Input.flag input "full"
  let (answers, s) ← (← Input.items input "steps").foldlM (fun (answers, before) json => do
    let (ending, after) ← oneStep json before
    let calls := after.callsSince before
    let waited : Duration := ⟨after.world.elapsed.nanos - before.world.elapsed.nanos⟩
    let ended := match ending with
      | .result value => [("result", value)]
      | .failed kind message => [("error", .str kind), ("message", Output.optional .str message)]
    let calls := if calls.isEmpty then []
      else [("calls", Json.arr (calls.map (callRecord before.world.elapsed full)))]
    let waited := if waited.floorMillis = 0 then []
      else [("waited_ms", Json.nat waited.floorMillis)]
    return (Json.object (ended ++ calls ++ waited) :: answers, after))
    (([] : List Json), ← start input)
  return .object [("steps", .arr answers.reverse), ("metrics", counts s.world.metrics.growth)]

end Steps

end AgentOperator.Scenario
