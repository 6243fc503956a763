import AgentOperator.Api.Request
import AgentOperator.Scenario.Steps
import AgentOperator.Watch.Simulation

/-! Scenarios that play a timeline against the control loops. -/
namespace AgentOperator.Scenario.WatchRun

def change (json : Json) : Reading Change := do
  match ← Input.text json "type" with
  | "ADDED" => return .added
  | "MODIFIED" => return .modified
  | "DELETED" => return .deleted
  | _ => badInput

def source (json : Json) : Reading EventSource := do
  match json.get? "object", json.get? "from" with
  | some object, _ => return .inline object
  | none, some (.str name) => return .copy name
  | none, _ => return .stored (← Input.slot json)

/-- A step that cannot be carried out leaves the store as it is. -/
def dataChange (json : Json) (s : Session) : Session :=
  match Steps.dataStep? s json with
  | .ok (some (_, s)) => s
  | _ => s

def happening (json : Json) : Reading (Duration × Happening) := do
  let time := Duration.ofMillis (← Input.nat json "at_ms")
  match ← Input.text json "do" with
  | "event" => return (time, .event (← change json) (← source json))
  | "close_watches" => return (time, .closeWatches)
  | _ => return (time, .change (dataChange json))

def put (s : Session) (json : Json) : Reading Session := do
  let r ← Steps.resource json
  return (s.put r.slot r.object).2

def run (input : Json) : Reading Json := do
  let session ← (← Input.items input "objects").foldlM put (← Steps.start input)
  let timeline ← (← Input.items input "timeline").mapM happening
  let deadline := Duration.ofMillis (← Input.nat input "until_ms")
  let s := Simulation.run { session, timeline, deadline }
  let world := s.session.world
  let calls := world.calls.reverse.map fun record =>
    (record.time.nanos, Steps.callRecord .zero false record)
  let calls := calls.mergeSort fun a b => a.1 < b.1 || (a.1 = b.1 && a.2.render ≤ b.2.render)
  return .object [
    ("requests", .arr ((s.requests fun kind => Api.collection kind none).map fun (line, count) =>
      .arr [.str line, .nat count])),
    ("calls", .arr (calls.map (·.2))), ("clean", .bool true),
    ("stopped_at_ms", .nat world.elapsed.ceilMillis),
    ("ready_before", .bool true), ("ready_after", .bool false),
    ("error_counts", Steps.errorCounts s.session), ("metrics", Steps.counts world.metrics.counts),
    ("objects", .arr (world.cluster.inventory.map fun (slot, _) =>
      .arr [.str slot.kind.name, .str slot.key.render]))]

end AgentOperator.Scenario.WatchRun
