import AgentOperator.Metrics.Exposition

/-!
The listener for metrics and probes: `/metrics` shows the metrics, `/healthz` says that the process
lives, `/readyz` whether it is ready. A path is answered for reading only; its query and, in an
absolute target, its scheme and authority are not looked at.
-/
namespace AgentOperator.Probe

structure Reply where
  status : Nat
  /-- Methods that would have been answered. -/
  allow : Option String := none
  body : String := ""
  deriving DecidableEq, Repr

def page? (registry : Registry) (ready : Bool) (path : String) : Option Reply :=
  match path with
  | "/metrics" => some { status := 200, body := registry.text }
  | "/healthz" => some { status := 200, body := "ok" }
  | "/readyz" =>
    some (if ready then { status := 200, body := "ready" }
      else { status := 503, body := "not ready" })
  | _ => none

/-- What follows the authority of an absolute target; any other target is its own path. -/
def withoutAuthority (target : List Char) : List Char :=
  match target, target.dropWhile (· ≠ ':') with
  | '/' :: _, _ => target
  | _, ':' :: '/' :: '/' :: rest => rest.dropWhile (· ≠ '/')
  | _, _ => target

def pathOf (target : String) : String :=
  String.ofList <| withoutAuthority <| target.toList.takeWhile fun c => c ≠ '?' && c ≠ '#'

def answer (registry : Registry) (ready : Bool) (method target : String) : Reply :=
  match page? registry ready (pathOf target), method with
  | none, _ => { status := 404 }
  | some reply, "GET" => reply
  | some reply, "HEAD" => { reply with body := "" }
  | some _, _ => { status := 405, allow := some "GET,HEAD" }

end AgentOperator.Probe
