import AgentOperator.Metrics.Exposition
import AgentOperator.Startup.Listener
import AgentOperator.Startup.Notice

/-!
The start-up: settings, metrics, the listener, the connection to the store, and a summary of what is
there. It stops at the first stage that fails, except that a summary that cannot be made is only
logged.
-/
namespace AgentOperator

structure Surroundings where
  registry : Registry := {}
  listener : Listener
  looks : List Look
  /-- Lists the objects of a kind; absent if no connection to the store can be set up. -/
  list? : Option (Kind → Except StoreError (List Object))

inductive StartupError where
  | registration (source : RegistryError)
  | listener (source : ListenerError)
  | connection
  /-- A process starts up once. -/
  | repeated
  deriving DecidableEq, Repr

def StartupError.message : StartupError → String
  | .registration source => source.message
  | .listener source => source.message
  | .connection => "Failed to create Kubernetes client"
  | .repeated => "Failed to install rustls crypto provider"

namespace Startup

structure Report where
  notices : List Notice
  result : Except StartupError Unit

def summary (list : Kind → Except StoreError (List Object)) (kind : Kind) : List Notice :=
  match list kind with
  | .ok objects =>
    let groups := Summary.byNamespace objects
    .found kind objects.length groups.length ::
      groups.map fun (ns, names) => .present ns names
  | .error error => [.unqueryable kind error, .continuing error]

def listenerNotices (l : Listener) (time : Duration) : List Notice :=
  if l.boundBy time then [.listening] else if l.endedBy time then [.unbound] else []

def connect (around : Surroundings) : Report :=
  match around.list? with
  | none => ⟨[], .error .connection⟩
  | some list =>
    ⟨[Kind.nodeAgent, .nodeScanner].flatMap (summary list) ++ [.initialized], .ok ()⟩

/-- There is no report while the listener is waited for. -/
def run (settings : Settings) (around : Surroundings) : Option Report := do
  let opening : List Notice := [.starting, .configured settings]
  match around.registry.register with
  | .error error => return ⟨opening, .error (.registration error)⟩
  | .ok _ =>
    let (look, verdict) ← around.listener.await settings.startupTimeout around.looks
    let opening := opening ++ listenerNotices around.listener (look.decided verdict)
    match verdict with
    | .error error => return ⟨opening, .error (.listener error)⟩
    | .ok () =>
      let report := connect around
      return { report with notices := opening ++ [.ready] ++ report.notices }

end Startup
end AgentOperator
