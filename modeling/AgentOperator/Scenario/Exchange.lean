import AgentOperator.Api.Response
import AgentOperator.Scenario.Input
import AgentOperator.Scenario.Output

/-! Scenarios in which store calls meet the prepared answers of an API server. -/
namespace AgentOperator.Scenario

namespace Exchange

def delivery (json : Json) : Reading Api.Delivery := do
  match json.get? "fail" with
  | some (.str reason) => return .error reason
  | _ =>
    let body := match json.get "body" with
      | .str text => text
      | value => value.render
    return .ok ⟨Input.natD json "code" 200, body⟩

def request (r : Api.Request) : Json :=
  .object [
    ("method", .str r.method.name), ("path", .str r.target.path),
    ("query", .strs (r.target.query.mergeSort (· ≤ ·))),
    ("content_type", Output.optional .str r.contentType), ("body", r.body.getD .null)]

def result {α : Type} (f : α → Json) (exchange : List Api.Request × Except StoreError α) : Json :=
  let requests := ("requests", Json.arr (exchange.1.map request))
  match exchange.2 with
  | .ok value => .object [requests, ("result", f value)]
  | .error error =>
    .object [
      requests, ("error", .str (Output.storeErrorKind error)), ("message", .str error.message)]

def call (json : Json) : Reading Json := do
  let responses ← (← Input.itemsD json "responses").mapM delivery
  let deliver (_ : Api.Request) : Api.Delivery := responses.headD (.error "no response scripted")
  let resource : Reading Resource := do
    return ⟨← Input.kind json, ← decoded (Object.decode (← Input.field json "object"))⟩
  match ← Input.text json "call" with
  | "get" => return result Object.encode (Api.exchange deliver (.get (← Input.slot json)))
  | "create" => return result Object.encode (Api.exchange deliver (.create (← resource)))
  | "replace" => return result Object.encode (Api.exchange deliver (.replace (← resource)))
  | "replace_status" =>
    return result Object.encode (Api.exchange deliver (.replaceStatus (← resource)))
  | "apply" =>
    let manager ← Input.text json "manager"
    let force := Input.flag json "force"
    return result Object.encode (Api.exchange deliver (.apply (← resource) manager force))
  | "delete" =>
    return result (fun _ => .null) (Api.exchange deliver (.delete (← Input.slot json)))
  | "request_token" =>
    let audiences ← (← Input.itemsD json "audiences").mapM fun item => need item.str?
    let ttl ← Input.durationD json "ttl" .zero
    let account ← Input.key json "key"
    return result .str (Api.exchange deliver (.requestToken account ⟨audiences, ttl⟩))
  | "list" =>
    let selector : Api.Selector := {
      kind := ← Input.kind json
      ns := ← Input.textOrNull json "namespace"
      labels := ← Input.textOrNull json "labels" }
    return result (fun objects => .arr (objects.map Object.encode)) (Api.list deliver selector)
  | _ => badInput

def run (input : Json) : Reading Json := do
  return .arr (← (← Input.items input "calls").mapM call)

end Exchange

end AgentOperator.Scenario
