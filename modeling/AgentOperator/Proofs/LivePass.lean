import AgentOperator.Proofs.InstanceWrites
import AgentOperator.Proofs.StepConvergence

/-!
What a pass over a live instance leaves on a store that never fails. Its steps come one by one to
have nothing left to do and touch only what they are about; the deletion of an unwanted credential
alone may take other things along, and then spares what was brought about as long as the instance
itself stays and no other object bears its uid. The marker is there afterwards, and the status says
what the next pass would say.
-/
namespace AgentOperator

namespace Instance
variable {i : Instance} {settings : Settings} {policy : RetryPolicy} {c c' start : Cluster}
  {stored o : Object} {slot : Slot} {step : Step} {steps before after : List Step}
  {events : List Event} {outcome : Outcome}

/-- What the first steps have brought about for the instance that is stored. -/
structure Brought (i : Instance) (start : Cluster) (stored : Object) (before : List Step)
    (c : Cluster) : Prop where
  ordered : c.inventory.Ordered
  mine : ∀ o, c.find? i.markerStep.slot = some o → o = stored
  done : (c.find? i.markerStep.slot).isSome → ∀ step ∈ before, step.Done c
  elsewhere : (∀ step ∈ before, ¬ step.Removes start) →
    ∀ slot, (∀ step ∈ before, slot ≠ step.target) → c.find? slot = start.find? slot

theorem Brought.nil (ordered : c.inventory.Ordered)
    (found : c.find? i.markerStep.slot = some stored) : i.Brought c stored [] c := by
  refine ⟨ordered, ?_, by simp, fun _ _ _ => rfl⟩
  intro o there
  exact Option.some.inj (there.symm.trans found)

def Alone (i : Instance) (c : Cluster) : Prop :=
  ∀ slot o uid, c.find? slot = some o → o.metadata.uid = some uid → i.metadata.uid = some uid →
    slot = i.markerStep.slot

theorem alone_of_stays (stays : ∀ step ∈ i.applySteps settings, ¬ step.Removes c) :
    (∃ step ∈ i.applySteps settings, step.Removes c) → i.Alone c := by
  intro some
  obtain ⟨step, member, removes⟩ := some
  exact absurd removes (stays step member)

theorem slot_ne_target (member : step ∈ i.applySteps settings) :
    i.markerStep.slot ≠ step.target := by
  intro same
  exact i.slot_notMem_managed settings (same ▸ target_mem_managed member)

theorem owners_of_done {s : ApplyStep} (unowned : s.resource.object.Unowned)
    (done : (Step.apply s).Done c) (found : c.find? s.resource.slot = some o) :
    o.metadata.ownerReferences.getD [] =
      if s.owner.sharesScope s.resource.object.metadata.ns then s.owner.reference.toList
      else [] := by
  obtain ⟨r, stored, desired, found', settled⟩ := done
  rw [ApplyStep.slot_of_desired desired, found] at found'
  obtain rfl := Option.some.inj found'
  obtain ⟨_, _, _, _, owners⟩ := Object.metadata_of_unversioned settled
  have merged : (Cluster.stamp (c.merged o r.object) 0).metadata.ownerReferences =
      r.object.metadata.ownerReferences := c.owners_merged o r.object
  rw [← owners, merged]
  exact ApplyStep.owners_of_desired unowned desired

theorem uid_of_done {s : ApplyStep} (brings : (Step.apply s).Brings (.ofInstance i))
    (done : (Step.apply s).Done c) (found : c.find? s.resource.slot = some o) {uid : String}
    (refers : o.RefersTo uid) : i.metadata.uid = some uid := by
  unfold Object.RefersTo at refers
  rw [owners_of_done brings.2.1.1 done found, brings.1] at refers
  exact Owner.uid_of_refers refers

theorem Brought.bearer (brought : i.Brought start stored before c) (alone : i.Alone start)
    (stays : ∀ step ∈ before, ¬ step.Removes start) {uid : String}
    (there : c.find? slot = some o) (bears : o.metadata.uid = some uid)
    (same : i.metadata.uid = some uid) :
    (∃ a ∈ before, slot = a.target) ∨ slot = i.markerStep.slot := by
  refine Decidable.byContradiction fun neither => ?_
  rw [not_or] at neither
  have others : ∀ step ∈ before, slot ≠ step.target :=
    fun step member here => neither.1 ⟨step, member, here⟩
  rw [brought.elsewhere stays slot others] at there
  exact neither.2 (alone slot o uid there bears same)

/-- An unwanted credential is dropped behind all the other steps. These keep what they have brought
about if the instance is still there. -/
theorem Brought.find?_of_drop {s : CredentialStep} {now : Timestamp}
    (brought : i.Brought start stored before c) (alone : i.Alone start)
    (found : start.find? i.markerStep.slot = some stored)
    (split : i.applySteps settings = before ++ .credential s :: after)
    (left : ((c.delete now s.secretSlot).2.find? i.markerStep.slot).isSome)
    {a : Step} (member : a ∈ before) :
    (c.delete now s.secretSlot).2.find? a.target = c.find? a.target := by
  have stays : ∀ step ∈ before, ¬ step.Removes start :=
    fun step member => (apart_of_split split member).2.1 start
  have inSteps : ∀ step ∈ before, step ∈ i.applySteps settings := by
    intro step member
    rw [split]
    exact List.mem_append_left _ member
  have last : Step.credential s ∈ i.applySteps settings := by simp [split]
  have home : c.find? i.markerStep.slot = some stored := by
    rw [brought.elsewhere stays _ fun step member => slot_ne_target (inSteps step member)]
    exact found
  have done := brought.done (by rw [home]; rfl)
  refine Cluster.find?_delete_of_spared (fun uid => i.metadata.uid ≠ some uid)
    (fun slot => ∃ a ∈ before, slot = a.target) now brought.ordered
    (apart_of_split split member).2.2.symm ⟨a, member, rfl⟩ ?_ ⟨?_, ?_⟩
  · intro o there uid bears same
    rcases brought.bearer alone stays there bears same with ⟨a, member, here⟩ | here
    · exact (apart_of_split split member).2.2 here
    · exact slot_ne_target last here.symm
  · intro slot o there spared uid doomed refers
    obtain ⟨a, member, rfl⟩ := spared
    have there' := brought.ordered.find?_of_sublist List.filter_sublist there
    have brings := brings_of_apply (inSteps a member)
    cases a with
    | apply a => exact doomed (uid_of_done brings (done _ member) there' refers)
    | provision a => exact not_provision_of_credential last (inSteps _ member)
    | credential a => exact credential_notMem_before split a member
    | delete a => exact brings
    | marker a => exact brings
  · intro slot o there notSpared
    by_cases here : slot = i.markerStep.slot
    · exact Or.inl (here ▸ left)
    · right
      intro uid bears same
      have there' := brought.ordered.find?_of_sublist List.filter_sublist there
      exact (brought.bearer alone stays there' bears same).elim notSpared here

theorem Brought.home (brought : i.Brought start stored before c)
    (found : start.find? i.markerStep.slot = some stored)
    (split : i.applySteps settings = before ++ step :: after) :
    c.find? i.markerStep.slot = some stored := by
  have stays : ∀ step ∈ before, ¬ step.Removes start :=
    fun step member => (apart_of_split split member).2.1 start
  rw [brought.elsewhere stays, found]
  intro step member
  have inSteps : step ∈ i.applySteps settings := by
    rw [split]
    exact List.mem_append_left _ member
  exact slot_ne_target inSteps

theorem Brought.run_makes (brought : i.Brought start stored before c)
    (found : start.find? i.markerStep.slot = some stored)
    (identified : (Owner.ofInstance i).reference.isSome)
    (split : i.applySteps settings = before ++ step :: after)
    {own : List Event} {result : StepResult} (run : step.run.Runs own result)
    (obeys : c.Obeys own c') : result = .ok ∧ step.Makes c c' := by
  have inSteps : step ∈ i.applySteps settings := by simp [split]
  refine Step.run_makes (Step.ready_of_brings (brings_of_apply inSteps) identified ?_) run obeys
  rintro s rfl _
  obtain ⟨a, member, account⟩ := account_before split
  obtain ⟨r, o, desired, there, _⟩ :=
    brought.done (by rw [brought.home found split]; rfl) _ member
  rw [← account, ← ApplyStep.slot_of_desired desired, there]
  rfl

theorem Brought.untouched (brought : i.Brought start stored before c)
    (split : i.applySteps settings = before ++ step :: after) :
    c.find? step.target = start.find? step.target := by
  refine brought.elsewhere ?_ _ fun a member => (apart_of_split split member).2.2
  intro a member
  exact (apart_of_split split member).2.1 start

theorem Brought.removes_congr (brought : i.Brought start stored before c)
    (split : i.applySteps settings = before ++ step :: after) (removes : step.Removes c) :
    step.Removes start := by
  have untouched := brought.untouched split
  have inSteps : step ∈ i.applySteps settings := by simp [split]
  have brings := brings_of_apply inSteps
  cases step with
  | credential s =>
    obtain ⟨unwanted, o, there, free⟩ := removes
    exact ⟨unwanted, o, untouched.symm.trans there, free⟩
  | delete s => exact brings.elim
  | apply s => exact removes
  | provision s => exact removes
  | marker s => exact removes

theorem Brought.extend (brought : i.Brought start stored before c)
    (found : start.find? i.markerStep.slot = some stored)
    (split : i.applySteps settings = before ++ step :: after) (makes : step.Makes c c')
    (mine : ∀ o, c'.find? i.markerStep.slot = some o → o = stored)
    (kept : (c'.find? i.markerStep.slot).isSome → ∀ a ∈ before,
      c'.find? a.target = c.find? a.target) : i.Brought start stored (before ++ [step]) c' := by
  have inSteps : step ∈ i.applySteps settings := by simp [split]
  have stays : ∀ step ∈ before, ¬ step.Removes start :=
    fun step member => (apart_of_split split member).2.1 start
  have done := brought.done (by rw [brought.home found split]; rfl)
  refine ⟨makes.ordered brought.ordered, mine, ?_, ?_⟩
  · intro left a member
    rcases List.mem_append.mp member with earlier | last
    · refine (done a earlier).congr makes.revives ?_
      intro slot within
      rw [(apart_of_split split earlier).1, List.mem_singleton] at within
      rw [within, kept left a earlier]
    · rw [List.mem_singleton.mp last]
      exact makes.done (brings_of_apply inSteps)
  · intro never slot others
    have different : slot ≠ step.target :=
      others step (List.mem_append_right before (List.mem_singleton_self step))
    have never' : ¬ step.Removes c :=
      fun removes => never step (by simp) (brought.removes_congr split removes)
    rw [makes.find?_of_ne never' different]
    exact brought.elsewhere stays slot fun a member => others a (List.mem_append_left _ member)

theorem Brought.extend_of_not_removes (brought : i.Brought start stored before c)
    (found : start.find? i.markerStep.slot = some stored)
    (split : i.applySteps settings = before ++ step :: after) (makes : step.Makes c c')
    (never : ¬ step.Removes c) : i.Brought start stored (before ++ [step]) c' := by
  refine brought.extend found split makes ?_ ?_
  · intro o left
    have inSteps : step ∈ i.applySteps settings := by simp [split]
    rw [makes.find?_of_ne never (slot_ne_target inSteps)] at left
    exact brought.mine o left
  · intro _ a member
    exact makes.find?_of_ne never (apart_of_split split member).2.2.symm

theorem Brought.threads (found : start.find? i.markerStep.slot = some stored)
    (identified : (Owner.ofInstance i).reference.isSome)
    (alone : (∃ step ∈ i.applySteps settings, step.Removes start) → i.Alone start) :
    Step.Threads (i.Brought start stored) (fun _ => True) events (i.applySteps settings) := by
  intro before step after split c c' own result brought run obeys _
  have inSteps : step ∈ i.applySteps settings := by simp [split]
  obtain ⟨fine, makes⟩ := brought.run_makes found identified split run obeys
  refine ⟨fine, fun _ _ => trivial, ?_⟩
  by_cases removes : step.Removes c
  · have isAlone := alone ⟨_, inSteps, brought.removes_congr split removes⟩
    obtain ⟨s, now, rfl, _, effect⟩ := makes.exists_drop (brings_of_apply inSteps) removes
    refine brought.extend found split makes ?_ ?_
    · intro o left
      rw [effect.find?] at left
      exact brought.mine o
        (Cluster.find?_of_delete now brought.ordered (slot_ne_target inSteps) left)
    · intro left a member
      rw [effect.find?] at left ⊢
      exact brought.find?_of_drop isAlone found split left member
  · exact brought.extend_of_not_removes found split makes removes

structure Converged (i : Instance) (settings : Settings) (policy : RetryPolicy) (c : Cluster)
    (stored : Object) : Prop where
  found : c.find? i.markerStep.slot = some stored
  live : stored.metadata.isDeleting = false
  done : ∀ step ∈ i.applySteps settings, step.Done c
  steady : i.markerStep.amended? stored = none
  settled : ∀ moment, ((i.statusWriter settings policy).derived none stored
    (c.get ⟨.daemonSet, i.workloadKey settings⟩) moment).2 = false

theorem ownSteps_of_live (live : i.metadata.isDeleting = false) (settings : Settings) :
    i.ownSteps settings = i.applySteps settings := if_neg (by simp [live])

theorem Brought.converged {c₁ c₂ : Cluster}
    (brought : i.Brought start stored (i.applySteps settings) c₁)
    (marks : c₁.Updates c₂ i.markerStep.slot i.markerStep.Marks)
    (reports : c₂.Updates c' i.markerStep.slot ((i.statusWriter settings policy).Reports
      (c₂.get ⟨.daemonSet, i.workloadKey settings⟩)))
    (there : c'.find? i.markerStep.slot = some o) :
    stored.Persists o ∧ i.Converged settings policy c' o := by
  obtain ⟨o₂, found₂, report⟩ := reports.exists_before there
  obtain ⟨o₁, found₁, mark⟩ := marks.exists_before found₂
  obtain rfl := brought.mine o₁ found₁
  have live : o.metadata.isDeleting = false := by
    unfold Metadata.isDeleting
    rw [report.deletionTimestamp]
    exact mark.live
  have elsewhere (other : Slot) (different : other ≠ i.markerStep.slot) :
      c'.find? other = c₁.find? other :=
    (reports.others other different).trans (marks.others other different)
  refine ⟨mark.persists.trans report.persists, there, live, ?_, ?_, ?_⟩
  · intro step member
    refine (brought.done (by rw [found₁]; rfl) step member).congr
      (reports.revives.trans marks.revives) ?_
    intro slot within
    rw [elsewhere]
    rintro rfl
    exact i.slot_notMem_managed settings (mem_managed.mpr ⟨step, Or.inl member, within⟩)
  · have marked := mark.steady
    rw [MarkerStep.amended_of_live mark.live] at marked
    rw [MarkerStep.amended_of_live live]
    unfold Metadata.hasMarker at marked ⊢
    rw [report.finalizers]
    split at marked
    · next has => rw [if_pos has]
    · cases marked
  · intro moment
    have workload : (⟨.daemonSet, i.workloadKey settings⟩ : Slot) ≠ i.markerStep.slot := by
      intro same
      have kind : Kind.daemonSet = i.kind := congrArg Slot.kind same
      unfold Instance.kind at kind
      split at kind <;> cases kind
    have observed : c'.get ⟨.daemonSet, i.workloadKey settings⟩ =
        c₂.get ⟨.daemonSet, i.workloadKey settings⟩ := by
      unfold Cluster.get
      rw [reports.others _ workload]
    rw [observed]
    exact report.settled live moment

theorem pass_effect_of_live {kept : List Step → Cluster → Prop} (copy : i.CopyAt slot c stored)
    (live : i.metadata.isDeleting = false) (fits : FitsStored i.metadata.generation)
    (threads : Step.Threads kept (fun _ => True) events (i.applySteps settings))
    (start : kept [] c)
    (mine : ∀ before d, kept before d → ∀ o, d.find? i.markerStep.slot = some o → o = stored)
    (run : (i.pass settings policy).Runs events outcome) (obeys : c.Obeys events c') :
    outcome.error = none ∧ ∃ c₁ c₂, kept (i.applySteps settings) c₁ ∧
      c₁.Updates c₂ i.markerStep.slot i.markerStep.Marks ∧
      c₂.Updates c' i.markerStep.slot ((i.statusWriter settings policy).Reports
        (c₂.get ⟨.daemonSet, i.workloadKey settings⟩)) := by
  have key := copy.key_eq
  rw [copy.metadata] at fits
  have same := ownSteps_of_live live settings
  obtain ⟨own, marker, status, c₁, c₂, result, written, rfl, _, keeps, marking, reporting, rfl⟩ :=
    pass_effect run obeys (by simp [live]) (same ▸ threads) start
      fun d keeps o there => mine _ d keeps o there ▸ key
  rw [same] at keeps
  rw [copy.metadata] at live
  have marks := marking.updates (fun o there => mine _ _ keeps o there ▸ key)
    (fun o there => mine _ _ keeps o there ▸ live)
  refine ⟨rfl, c₁, c₂, keeps, marks, reporting.updates ?_⟩
  intro o there
  obtain ⟨o₁, there₁, mark⟩ := marks.exists_before there
  rw [mark.persists.generation, mine _ _ keeps o₁ there₁]
  exact fits

/-- After a pass over a live instance nothing is left to do for it, if it is still there; and it is
if no step has removed anything. -/
theorem converged_of_pass (ordered : c.inventory.Ordered) (copy : i.CopyAt slot c stored)
    (live : i.metadata.isDeleting = false) (identified : (Owner.ofInstance i).reference.isSome)
    (fits : FitsStored i.metadata.generation)
    (alone : (∃ step ∈ i.applySteps settings, step.Removes c) → i.Alone c)
    (run : (i.pass settings policy).Runs events outcome) (obeys : c.Obeys events c') :
    outcome.error = none ∧
      ((∀ step ∈ i.applySteps settings, ¬ step.Removes c) → (c'.find? slot).isSome) ∧
      ∀ o, c'.find? slot = some o → stored.Persists o ∧ i.Converged settings policy c' o := by
  have found : c.find? i.markerStep.slot = some stored := copy.place ▸ copy.found
  obtain ⟨fine, c₁, c₂, brought, marks, reports⟩ :=
    pass_effect_of_live copy live fits (Brought.threads found identified alone)
      (.nil ordered found) (fun _ _ brought => brought.mine) run obeys
  rw [← copy.place]
  refine ⟨fine, ?_, fun o there => brought.converged marks reports there⟩
  intro never
  have home : c₁.find? i.markerStep.slot = some stored := by
    rw [brought.elsewhere never _ fun step member => slot_ne_target member, found]
  rw [reports.isSome_eq, marks.isSome_eq, home]
  rfl

end Instance
end AgentOperator
