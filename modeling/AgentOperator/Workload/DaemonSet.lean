import AgentOperator.Object
import AgentOperator.Shape.Pod

/-!
Workload objects as far as their health is read from them: metadata and status. The whole object has
to be one of a workload all the same, down to the pods that it describes. Absent counts read as
zero.
-/
namespace AgentOperator

structure DaemonSetStatus where
  currentNumberScheduled : Int := 0
  desiredNumberScheduled : Int := 0
  numberAvailable : Option Int := none
  numberReady : Int := 0
  numberUnavailable : Option Int := none
  observedGeneration : Option Int := none
  updatedNumberScheduled : Option Int := none
  deriving DecidableEq, Repr

structure DaemonSet where
  metadata : Metadata
  status : Option DaemonSetStatus
  deriving DecidableEq

namespace DaemonSetStatus

def shape : Shape :=
  .api "DaemonSetStatus" [
    ("collisionCount", .int32),
    ("conditions", .sequence (.api "DaemonSetCondition" [
      ("lastTransitionTime", .instant), ("message", .text), ("reason", .text), ("status", .text),
      ("type", .text)])),
    ("currentNumberScheduled", .int32), ("desiredNumberScheduled", .int32),
    ("numberAvailable", .int32), ("numberMisscheduled", .int32), ("numberReady", .int32),
    ("numberUnavailable", .int32), ("observedGeneration", .int64),
    ("updatedNumberScheduled", .int32)]

def ofJson (json : Json) : DaemonSetStatus :=
  let count? (name : String) := json.member? name Json.int?
  { currentNumberScheduled := (count? "currentNumberScheduled").getD 0
    desiredNumberScheduled := (count? "desiredNumberScheduled").getD 0
    numberAvailable := count? "numberAvailable"
    numberReady := (count? "numberReady").getD 0
    numberUnavailable := count? "numberUnavailable"
    observedGeneration := count? "observedGeneration"
    updatedNumberScheduled := count? "updatedNumberScheduled" }

end DaemonSetStatus

namespace DaemonSet

def specShape : Shape :=
  .api "DaemonSetSpec" [
    ("minReadySeconds", .int32), ("revisionHistoryLimit", .int32),
    ("selector", .labelSelector), ("template", .podTemplate),
    ("updateStrategy", .api "DaemonSetUpdateStrategy" [
      ("rollingUpdate", .api "RollingUpdateDaemonSet" [
        ("maxSurge", .intOrText), ("maxUnavailable", .intOrText)]),
      ("type", .text)])]

def shape : Shape :=
  .declared Kind.daemonSet.name Kind.daemonSet.apiVersion [
    ("metadata", Metadata.shape), ("spec", specShape), ("status", DaemonSetStatus.shape)]

def ofJson (json : Json) : DaemonSet :=
  { metadata := ((json.get? "metadata").map Metadata.ofJson).getD {}
    status := ((json.get? "status").filter (· ≠ .null)).map DaemonSetStatus.ofJson }

def decode (json : Json) : Decoded DaemonSet := do
  shape.check json
  return ofJson json

end DaemonSet

end AgentOperator
