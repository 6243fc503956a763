import AgentOperator.Proofs.ObservedGeneration

/-!
What it takes for a pass to report that the workload is available. Every attempt to write the
conditions looks at the workload afresh, so the report is of the attempt that writes it: no earlier
look and no other counter can make a workload pass for healthy. Of a workload whose controller has
not seen its latest specification all counters are stale, and none of them has a part in the report.
-/
namespace AgentOperator

namespace DaemonSet
variable {d : DaemonSet}

def counts (d : DaemonSet) : DaemonSetStatus := d.status.getD {}

/-- The workload's controller has not seen its latest specification. -/
def Behind (d : DaemonSet) : Prop :=
  ∃ generation, d.metadata.generation = some generation ∧
    d.counts.observedGeneration.getD 0 < generation

/-- Every node that is to run the workload is updated and available, by counters that are of its
latest specification. Absent counters read as zero. -/
structure Healthy (d : DaemonSet) : Prop where
  seen : d.metadata.generation = none ∨ ∃ generation, d.metadata.generation = some generation ∧
    generation ≤ d.counts.observedGeneration.getD 0
  scheduled : d.counts.desiredNumberScheduled ≠ 0
  ready : d.counts.numberReady ≠ 0
  updated : d.counts.desiredNumberScheduled ≤ d.counts.updatedNumberScheduled.getD 0
  available : d.counts.desiredNumberScheduled ≤ d.counts.numberAvailable.getD 0
  unavailable : d.counts.numberUnavailable.getD 0 ≤ 0

end DaemonSet

namespace Rollout
variable {r : Rollout} {d : DaemonSet}

/-- Only the last rule calls a workload healthy, and it is reached past all the others. -/
theorem verdict_true_iff : r.verdict.status = .true ↔
    r.outOfSync = false ∧ (r.ready ≠ 0 ∧ r.desired ≠ 0) ∧ r.desired ≤ r.updated ∧
      r.desired ≤ r.available ∧ r.unavailable ≤ 0 := by
  constructor
  · intro positive
    unfold verdict at positive
    split at positive
    · cases positive
    split at positive
    · cases positive
    split at positive
    · cases positive
    split at positive
    · cases positive
    split at positive
    · cases positive
    · next seen running updated available unavailable =>
      exact ⟨Bool.eq_false_iff.mpr seen, not_or.mp running, Int.not_lt.mp updated,
        Int.not_lt.mp available, Int.not_lt.mp unavailable⟩
  · rintro ⟨seen, running, updated, available, unavailable⟩
    rw [verdict, if_neg (Bool.eq_false_iff.mp seen), if_neg (not_or.mpr running),
      if_neg (Int.not_lt.mpr updated), if_neg (Int.not_lt.mpr available),
      if_neg (Int.not_lt.mpr unavailable)]

theorem outOfSync_ofDaemonSet_iff : (ofDaemonSet d).outOfSync = true ↔ d.Behind := by
  unfold outOfSync ofDaemonSet DaemonSet.Behind DaemonSet.counts
  dsimp only
  cases d.metadata.generation with
  | none => simp
  | some generation => simp

theorem inSync_ofDaemonSet_iff : (ofDaemonSet d).outOfSync = false ↔
    d.metadata.generation = none ∨ ∃ generation, d.metadata.generation = some generation ∧
      generation ≤ d.counts.observedGeneration.getD 0 := by
  rw [← Bool.not_eq_true, outOfSync_ofDaemonSet_iff, DaemonSet.Behind]
  cases d.metadata.generation with
  | none => simp
  | some generation => simp

theorem verdict_true_iff_healthy : (ofDaemonSet d).verdict.status = .true ↔ d.Healthy := by
  rw [verdict_true_iff, inSync_ofDaemonSet_iff]
  constructor
  · rintro ⟨seen, ⟨ready, scheduled⟩, updated, available, unavailable⟩
    exact ⟨seen, scheduled, ready, updated, available, unavailable⟩
  · rintro ⟨seen, scheduled, ready, updated, available, unavailable⟩
    exact ⟨seen, ⟨ready, scheduled⟩, updated, available, unavailable⟩

end Rollout

namespace Verdict
variable {workload : Except StoreError Rollout} {passError : Option String}

theorem available_true_iff : (available workload passError).status = .true ↔
    passError = none ∧ ∃ rollout, workload = .ok rollout ∧ rollout.verdict.status = .true := by
  cases passError with
  | some error => simp [available]
  | none =>
    cases workload with
    | ok rollout => simp [available, ofWorkload]
    | error error => cases error <;> simp [available, ofWorkload]

theorem available_of_behind {a b : DaemonSet} (first : a.Behind) (second : b.Behind)
    (passError : Option String) :
    available (.ok (.ofDaemonSet a)) passError = available (.ok (.ofDaemonSet b)) passError := by
  have same : (Rollout.ofDaemonSet a).verdict = (Rollout.ofDaemonSet b).verdict := by
    unfold Rollout.verdict
    rw [if_pos (Rollout.outOfSync_ofDaemonSet_iff.mpr first),
      if_pos (Rollout.outOfSync_ofDaemonSet_iff.mpr second)]
  simp only [available, ofWorkload, same]

end Verdict

namespace StatusWriter
variable {w : StatusWriter} {passError : Option String} {read : Object}
  {workload : Except StoreError Object} {moment : Moment}

theorem observe_eq_ok_iff {rollout : Rollout} : w.observe workload = .ok rollout ↔
    ∃ object d, workload = .ok object ∧ DaemonSet.decode object.encode = .ok d ∧
      .ofDaemonSet d = rollout := by
  cases workload with
  | error error => simp [observe]
  | ok object =>
    cases decoded : DaemonSet.decode object.encode with
    | error error => simp [observe, decoded]
    | ok d => simp [observe, decoded]

theorem available_iff :
    (∃ c ∈ (w.derived passError read workload moment).1,
      c.type = Conventions.availableType ∧ c.status = .true) ↔
    passError = none ∧ ∃ object d, workload = .ok object ∧
      DaemonSet.decode object.encode = .ok d ∧ d.Healthy := by
  have verdict : (∃ rollout, w.observe workload = .ok rollout ∧ rollout.verdict.status = .true) ↔
      ∃ object d, workload = .ok object ∧ DaemonSet.decode object.encode = .ok d ∧ d.Healthy := by
    constructor
    · rintro ⟨rollout, observed, positive⟩
      obtain ⟨object, d, found, decoded, rfl⟩ := observe_eq_ok_iff.mp observed
      exact ⟨object, d, found, decoded, Rollout.verdict_true_iff_healthy.mp positive⟩
    · rintro ⟨object, d, found, decoded, healthy⟩
      exact ⟨.ofDaemonSet d, observe_eq_ok_iff.mpr ⟨object, d, found, decoded, rfl⟩,
        Rollout.verdict_true_iff_healthy.mpr healthy⟩
  rw [← verdict, ← Verdict.available_true_iff]
  constructor
  · rintro ⟨c, member, about, positive⟩
    have agrees := Condition.available_of_mem_derive member about
    rw [← positive]
    exact (Condition.sameObservation_iff.mp agrees.2).2.1.symm
  · intro positive
    obtain ⟨reconciled, available, same, _, agrees⟩ :=
      Condition.derive_agrees (storedConditions read) read.metadata.generation (w.observe workload)
        passError moment.wall.render
    refine ⟨available, ?_, agrees.1, ?_⟩
    · rw [derived, same]
      simp
    · rw [← positive]
      exact (Condition.sameObservation_iff.mp agrees.2).2.1

end StatusWriter

namespace Instance
variable {i : Instance} {settings : Settings} {policy : RetryPolicy} {events : List Event}
  {outcome : Outcome}

/-- A pass reports that the workload is available exactly if its steps came to no error and the
workload that the writing attempt has looked up is healthy. The report is the verdict on what that
attempt was shown, and the verdict is the same for all workloads whose controllers are behind. -/
theorem available_iff_healthy (run : (i.pass settings policy).Runs events outcome)
    {before after : List Event} {written : Resource} {answer : Except StoreError Object}
    (write : events = before ++ .call (.replaceStatus written) answer :: after) :
    (∃ body reached earlier read workload moment conditions,
      before = body ++ earlier ++ [.call (.get ⟨i.kind, i.key⟩) (.ok read),
        .call (.get ⟨.daemonSet, i.workloadKey settings⟩) workload, .clock moment] ∧
      (Pass.run settings.requeueDelay ((i.steps settings).map Step.run)).Runs body reached ∧
      written = ⟨i.kind, read.withStatus (some (encodeStatus conditions))⟩ ∧
      conditions.map (·.type) = Condition.required ∧
      (∀ c ∈ conditions, c.type = Conventions.availableType →
        c.Agrees ((Verdict.available ((i.statusWriter settings policy).observe workload)
          (reached.error.map StepError.message)).toCondition Conventions.availableType
            read.metadata.generation)) ∧
      ((∃ c ∈ conditions, c.type = Conventions.availableType ∧ c.status = .true) ↔
        reached.error = none ∧ ∃ object d, workload = .ok object ∧
          DaemonSet.decode object.encode = .ok d ∧ d.Healthy)) ∧
    ∀ a b : DaemonSet, a.Behind → b.Behind → ∀ passError,
      Verdict.available (.ok (.ofDaemonSet a)) passError =
        Verdict.available (.ok (.ofDaemonSet b)) passError := by
  obtain ⟨body, reached, status, result, rfl, steps, writing⟩ := status_of_write run write
  obtain ⟨earlier, attempted, rest, ended, rfl, attempt⟩ :=
    StatusWriter.attempt_of_call writing rfl
  obtain ⟨read, workload, moment, rfl, rfl⟩ := StatusWriter.readings_of_write attempt
  refine ⟨⟨body, reached, earlier, read, workload, moment, _, by simp [StatusWriter.readings,
    StatusWriter.slot, statusWriter], steps, rfl, Condition.types_derive _ _ _ _ _, ?_, ?_⟩, ?_⟩
  · intro c member about
    exact Condition.available_of_mem_derive member about
  · rw [StatusWriter.available_iff, Option.map_eq_none_iff]
  · intro a b first second passError
    exact Verdict.available_of_behind first second passError

def healthyWorkload : Object :=
  { types := some (.ofKind .daemonSet)
    metadata := { name := some "telemetry-agent", ns := some "observability", generation := some 2 }
    data := [("status", .obj [
      ("currentNumberScheduled", .int 3), ("desiredNumberScheduled", .int 3),
      ("numberAvailable", .int 3), ("numberMisscheduled", .int 0), ("numberReady", .int 3),
      ("observedGeneration", .int 2), ("updatedNumberScheduled", .int 3)])] }

def healthyDaemonSet : DaemonSet :=
  { metadata := healthyWorkload.metadata
    status := some
      { currentNumberScheduled := 3, desiredNumberScheduled := 3, numberReady := 3
        numberAvailable := some 3, updatedNumberScheduled := some 3
        observedGeneration := some 2 } }

theorem decode_healthyWorkload :
    DaemonSet.decode healthyWorkload.encode = .ok healthyDaemonSet := rfl

theorem healthy_healthyDaemonSet : healthyDaemonSet.Healthy where
  seen := Or.inr ⟨2, rfl, by decide⟩
  scheduled := by decide
  ready := by decide
  updated := by decide
  available := by decide
  unavailable := by decide

theorem firstAgent_reports_healthy_workload :
    ∃ before conditions after outcome,
      (firstAgent.pass {} {}).Runs
        (before ++ .call (.replaceStatus ⟨.nodeAgent,
          (agentOf 1).withStatus (some (encodeStatus conditions))⟩) (.ok (agentOf 1)) :: after)
        outcome ∧
      .call (.get ⟨.daemonSet, firstAgent.workloadKey {}⟩) (.ok healthyWorkload) ∈ before ∧
      ∃ c ∈ conditions, c.type = Conventions.availableType ∧ c.status = .true := by
  obtain ⟨own, steps⟩ := firstAgent_steps
  have run := firstAgent_pass steps (firstWriter_writes 1 (.ok healthyWorkload))
  rw [← List.append_assoc] at run
  obtain ⟨⟨body, reached, earlier, read, workload, moment, conditions, split, others, written, _, _,
    positive⟩, _⟩ := available_iff_healthy run rfl
  obtain ⟨first, looks⟩ := List.append_inj' split rfl
  cases looks
  obtain ⟨_, rfl⟩ := others.unique steps (List.prefix_append body earlier)
    (first ▸ List.prefix_rfl)
  have available := positive.mpr ⟨rfl, healthyWorkload, healthyDaemonSet, rfl,
    decode_healthyWorkload, healthy_healthyDaemonSet⟩
  rw [written] at run
  refine ⟨_, conditions, _, _, run, ?_, available⟩
  exact List.mem_append_right _ (List.mem_cons_of_mem _ List.mem_cons_self)

end Instance
end AgentOperator
