import AgentOperator.ControlLoop
import AgentOperator.World

/-!
A session of the operator in a world of its own: its settings, the table of failures, and copies of
objects that were put aside. Users write to the store past all faults and unrecorded.
-/
namespace AgentOperator

structure Session where
  world : World
  settings : Settings := {}
  policy : RetryPolicy := {}
  failures : FailureTable := []
  copies : Fields Object := []

namespace Session

def withCluster (s : Session) (cluster : Cluster) : Session :=
  { s with world := { s.world with cluster } }

def stored (s : Session) (slot : Slot) : Except StoreError Object := s.world.cluster.get slot

def put (s : Session) (slot : Slot) (object : Object) : Object × Session :=
  let (object, cluster) := s.world.cluster.write slot object
  (object, s.withCluster cluster)

def edit (s : Session) (slot : Slot) (object : Object) (patch : Json) :
    Decoded (Object × Session) := do
  let edited ← Object.decode (object.encode.merge patch)
  return s.put slot edited

def drop (s : Session) (slot : Slot) : Session := s.withCluster (s.world.cluster.remove slot)

def userDelete (s : Session) (slot : Slot) : Except StoreError Unit × Session :=
  let (answer, cluster) := s.world.cluster.delete s.world.now slot
  (answer, s.withCluster cluster)

def keep (s : Session) (name : String) (object : Object) : Session :=
  { s with copies := s.copies.insert name object }

def addFault (s : Session) (rule : FaultRule) : Session :=
  s.withCluster { s.world.cluster with faults := s.world.cluster.faults ++ [rule] }

def heal (s : Session) : Session := s.withCluster { s.world.cluster with faults := [] }

def advance (s : Session) (d : Duration) : Session := { s with world := s.world.advance d }

def run (s : Session) (p : Program α) : α × Session :=
  let (value, world) := s.world.run p
  (value, { s with world })

/-- A turn and, if it is clean, its effect on the table. -/
def turn (s : Session) (subject : Subject) : Except TurnError Requeue × Session :=
  let (result, s) := s.run (subject.turn s.settings s.policy)
  match result with
  | .ok _ => (result, { s with failures := subject.forgive s.failures })
  | .error _ => (result, s)

def handleError (s : Session) (subject : Subject) (error : TurnError) : Requeue × Session :=
  let (requeue, failures, measurements) := subject.settle s.settings s.failures (.error error)
  (requeue,
    { s with failures, world := { s.world with metrics := s.world.metrics.addAll measurements } })

/-- Calls made since `earlier`, the first one first. -/
def callsSince (s earlier : Session) : List CallRecord :=
  (s.world.calls.take (s.world.calls.length - earlier.world.calls.length)).reverse

end Session
end AgentOperator
