import AgentOperator.Condition
import AgentOperator.Object
import AgentOperator.Store.Program
import AgentOperator.Workload.DaemonSet

/-!
The two conditions of an instance: `Reconciled` says whether the last pass succeeded, `Available`
whether the workload is healthy. `Available` goes through the rules of `Rollout.verdict` in order,
and the first that fits decides; a failed pass degrades whatever they say.
-/
namespace AgentOperator

structure Rollout where
  desired : Int := 0
  current : Int := 0
  ready : Int := 0
  updated : Int := 0
  available : Int := 0
  unavailable : Int := 0
  generation : Option Int := none
  observedGeneration : Option Int := none
  deriving DecidableEq, Repr

structure Verdict where
  status : ConditionStatus
  reason : String
  message : String
  deriving DecidableEq, Repr

def Verdict.toCondition (v : Verdict) (type : String) (generation : Option Int) : Condition :=
  { type
    status := v.status
    observedGeneration := generation
    reason := some v.reason
    message := some v.message }

namespace Rollout

/-- Absent counters read as zero. -/
def ofDaemonSet (daemonSet : DaemonSet) : Rollout :=
  let status := daemonSet.status.getD {}
  { desired := status.desiredNumberScheduled
    current := status.currentNumberScheduled
    ready := status.numberReady
    updated := status.updatedNumberScheduled.getD 0
    available := status.numberAvailable.getD 0
    unavailable := status.numberUnavailable.getD 0
    generation := daemonSet.metadata.generation
    observedGeneration := status.observedGeneration }

/-- The workload's controller has not yet seen its latest specification. -/
def outOfSync (r : Rollout) : Bool :=
  match r.generation with
  | some generation => r.observedGeneration.getD 0 < generation
  | none => false

def verdict (r : Rollout) : Verdict :=
  if r.outOfSync then ⟨.unknown, "OutOfSync", "out of sync"⟩
  else if r.ready = 0 ∨ r.desired = 0 then ⟨.false, "PodsNotRunning", "pods not running"⟩
  else if r.updated < r.desired then
    ⟨.unknown, "RolloutInProgress", s!"rollout in progress: {r.updated}/{r.desired} nodes updated"⟩
  else if r.available < r.desired then
    ⟨.unknown, "PartiallyAvailable",
      s!"partially available: {r.available}/{r.desired} nodes available"⟩
  else if 0 < r.unavailable then
    ⟨.false, "PartiallyAvailable", s!"partially available: {r.unavailable} nodes unavailable"⟩
  else ⟨.true, "Ready", "ready"⟩

end Rollout

namespace Verdict

def reconciled (passError : Option String) : Verdict :=
  match passError with
  | none => ⟨.true, "ReconcileSuccess", "reconcile succeeded"⟩
  | some error => ⟨.false, "ReconcileError", error⟩

def ofWorkload : Except StoreError Rollout → Verdict
  | .ok rollout => rollout.verdict
  | .error (.notFound _) => ⟨.false, "WorkloadNotFound", "workload not found"⟩
  | .error error => ⟨.unknown, "WorkloadError", "workload error: " ++ error.message⟩

def available (workload : Except StoreError Rollout) (passError : Option String) : Verdict :=
  let verdict := ofWorkload workload
  match passError with
  | none => verdict
  | some _ => ⟨.degraded, "ReconcileError", s!"reconcile error ({verdict.message})"⟩

end Verdict

namespace Condition

/-- The conditions that a pass leaves, and whether they differ from the stored ones. -/
def derive (stored : List Condition) (generation : Option Int)
    (workload : Except StoreError Rollout) (passError : Option String) (now : String) :
    List Condition × Bool :=
  let sane := sanitize stored
  let reconciled :=
    (Verdict.reconciled passError).toCondition Conventions.reconciledType generation
  let available :=
    (Verdict.available workload passError).toCondition Conventions.availableType generation
  let first := set reconciled now sane
  let second := set available now first.1
  (second.1, sane ≠ stored || first.2 || second.2)

end Condition
end AgentOperator
