import AgentOperator.Api.Response
import AgentOperator.Scenario.Input
import AgentOperator.Scenario.Output
import AgentOperator.Startup

/-!
Scenarios of the start-up. They play on a machine without a network: the listener can be bound, but
nothing can be connected to, neither the API server nor the listener.
-/
namespace AgentOperator.Scenario.StartupRun

def unreachable : String := "Network is unreachable (os error 101)"

def deliver (_ : Api.Request) : Api.Delivery := .error "client error (Connect)"

def list (kind : Kind) : Except StoreError (List Object) := (Api.list deliver { kind }).2

/-- The start-up and the listener take turns, and the start-up has the first. -/
def surroundings (settings : Settings) (input : Json) : Surroundings :=
  let firstLook : Duration := ⟨1⟩
  let listenerTurn : Duration := ⟨2⟩
  let listener : Listener := if Input.flag input "port_taken" then { ended := some listenerTurn }
    else { bound := some listenerTurn }
  { registry := { registered := Input.flag input "metrics_registered" }
    listener
    looks := [.instant firstLook, .instant (listenerTurn + settings.startupPollInterval)]
    list? := if (input.get? "kubeconfig").isSome then none else some list }

def failure (error : StartupError) : Json := .object [("error", .str error.message)]

def run (input : Json) : Reading Json := do
  let env ← match input.get? "env" with
    | none | some .null => pure []
    | some env => Input.textMap env
  if !(← Input.itemsD input "probes").isEmpty then throw (.badInput (some unreachable))
  let settings := Settings.ofEnvironment env
  let filter := LogFilter.ofEnvironment env
  let report ← need (Startup.run settings (surroundings settings input))
  let first := match report.result with
    | .error error => failure error
    | .ok () => .object [("ok", .object [
        ("ready", .bool true), ("operator_namespace", .str settings.operatorNamespace),
        ("image", .str settings.defaultImage)])]
  let log := (report.notices.filter fun notice => filter.shows notice.level).map fun notice =>
    Json.strs [notice.level.name, notice.text "0.0.0.0:PORT"]
  let times := Input.natD input "times" 1
  let later := List.replicate (times - 1) (failure .repeated)
  return .object [
    ("results", .arr ((first :: later).take times)),
    ("log", .arr (if times = 0 then [] else log)), ("requests", .arr []), ("probes", .arr [])]

end AgentOperator.Scenario.StartupRun
