import AgentOperator.Settings
import AgentOperator.Store.Program

/-!
What the start-up logs, and which of it is shown. A summary of the objects of a kind is their names,
by namespace; it does not depend on the order in which the objects are listed.
-/
namespace AgentOperator

inductive LogLevel where
  | error
  | warn
  | info
  | debug
  | trace
  deriving DecidableEq, Repr

namespace LogLevel

def name : LogLevel → String
  | .error => "ERROR"
  | .warn => "WARN"
  | .info => "INFO"
  | .debug => "DEBUG"
  | .trace => "TRACE"

/-- The less it matters, the more verbose a log has to be to show it. -/
def verbosity : LogLevel → Nat
  | .error => 1
  | .warn => 2
  | .info => 3
  | .debug => 4
  | .trace => 5

def all : List LogLevel := [.error, .warn, .info, .debug, .trace]

end LogLevel

/-- The most verbose level that is shown; without one nothing is. -/
structure LogFilter where
  level : Option LogLevel := some .info
  deriving DecidableEq, Repr

namespace LogFilter

def shows (f : LogFilter) (level : LogLevel) : Bool :=
  f.level.any (level.verbosity ≤ ·.verbosity)

def ofLevelName? (name : String) : Option LogFilter :=
  let name := name.toUpper
  if name = "OFF" then some ⟨none⟩
  else (LogLevel.all.find? (·.name = name)).map fun level => ⟨some level⟩

/-- The filter that the environment asks for: a level for the operator, or one for all. -/
def ofEnvironment (env : Fields String) : LogFilter :=
  let asked := (env.get? "RUST_LOG").bind fun directive =>
    match directive.splitOn "=" with
    | [level] => ofLevelName? level
    | ["node_agent_operator", level] => ofLevelName? level
    | _ => none
  asked.getD {}

end LogFilter

namespace Summary

/-- Stands for the namespace of objects that have none. -/
def clusterPlace : String := "(cluster)"

def place (m : Metadata) : String := m.ns.getD clusterPlace

def addName (groups : Fields (List String)) (m : Metadata) : Fields (List String) :=
  groups.update (place m) [] (· ++ [m.name.getD ""])

/-- Names by namespace, both in ascending order; a name stands as often as it was listed. -/
def byNamespace (objects : List Object) : Fields (List String) :=
  ((objects.map Object.metadata).foldl addName []).mapValues fun names => names.mergeSort (· ≤ ·)

def shownNames : Nat := 3

def abridge (names : List String) : String :=
  if names.length ≤ shownNames then ", ".intercalate names
  else ", ".intercalate (names.take shownNames) ++ s!", ... ({names.length} total)"

end Summary

def version : String := "0.1.0"

inductive Notice where
  | starting
  | configured (settings : Settings)
  | listening
  | unbound
  | ready
  | found (kind : Kind) (count : Nat) (namespaces : Nat)
  | present (ns : String) (names : List String)
  | unqueryable (kind : Kind) (error : StoreError)
  | continuing (error : StoreError)
  | initialized
  deriving DecidableEq, Repr

namespace Notice

def level : Notice → LogLevel
  | .unbound | .unqueryable .. => .error
  | .continuing _ => .warn
  | _ => .info

def text (address : String) : Notice → String
  | .starting => s!"Starting Node Agent Operator v{version}"
  | .configured s =>
    s!"Loaded configuration operator_namespace={s.operatorNamespace} " ++
      s!"platform={s.platform.name} token_refresh_interval_secs={s.refreshInterval.secs}"
  | .listening => s!"HTTP server listening on {address}"
  | .unbound => s!"HTTP server error: Failed to bind HTTP server to {address}"
  | .ready => "HTTP server is ready and accepting connections"
  | .found kind count namespaces =>
    s!"Found {count} existing {kind.name} resources in {namespaces} namespaces"
  | .present ns names => s!"  {ns}: {Summary.abridge names}"
  | .unqueryable kind error =>
    s!"{kind.name} is not queryable; {error.message}. Is the CRD installed?"
  | .continuing error =>
    s!"CRD queryability check failed, continuing; the watch will retry error={error.message}"
  | .initialized => "Operator initialized, starting watch loops..."

end Notice
end AgentOperator
