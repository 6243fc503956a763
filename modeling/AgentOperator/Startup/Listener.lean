import AgentOperator.Duration

/-!
Waiting for the listener for metrics and probes. It comes up beside the start-up, which looks at it
from time to time: first whether it has ended, then whether it is bound, and last whether the window
for it has passed. The listener goes on between the three readings.
-/
namespace AgentOperator

/-- When the listener is bound and when it ends, counted from the start of the wait. -/
structure Listener where
  bound : Option Duration := none
  ended : Option Duration := none
  deriving DecidableEq, Repr

inductive ListenerError where
  | ended
  | late (window : Duration)
  deriving DecidableEq, Repr

def ListenerError.message : ListenerError → String
  | .ended => "HTTP server failed to start"
  | .late window => s!"HTTP server failed to become ready within {window.secs} seconds"

/-- The times of the three readings of a look, counted from the start of the wait. -/
structure Look where
  ended : Duration
  bound : Duration
  waited : Duration
  deriving DecidableEq, Repr

namespace Look

def instant (time : Duration) : Look := ⟨time, time, time⟩

def decided (look : Look) : Except ListenerError Unit → Duration
  | .error .ended => look.ended
  | .ok () => look.bound
  | .error (.late _) => look.waited

end Look

namespace Listener

def boundBy (l : Listener) (time : Duration) : Bool := l.bound.any (· ≤ time)

def endedBy (l : Listener) (time : Duration) : Bool := l.ended.any (· ≤ time)

def look? (l : Listener) (window : Duration) (look : Look) : Option (Except ListenerError Unit) :=
  if l.endedBy look.ended then some (.error .ended)
  else if l.boundBy look.bound then some (.ok ())
  else if window < look.waited then some (.error (.late window))
  else none

/-- The first look that decides, and what it decides. Without one the wait goes on. -/
def await (l : Listener) (window : Duration) :
    List Look → Option (Look × Except ListenerError Unit)
  | [] => none
  | look :: later =>
    match l.look? window look with
    | some verdict => some (look, verdict)
    | none => l.await window later

end Listener
end AgentOperator
