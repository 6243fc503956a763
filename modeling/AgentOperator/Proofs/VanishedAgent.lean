import AgentOperator.Proofs.CleanRemoval

/-!
A pass over a copy of an agent that is no longer stored. Nothing looks for the agent before the
steps have run, so on a store that never fails all of them do. Whatever they leave that was not
there refers to the agent and is collected, but for the role and its binding, which refer to nobody:
both are there afterwards, and the marker that would see to their deletion finds nothing to be put
on.
-/
namespace AgentOperator

/-- Its references name the instance as the controller, so it is collected once that is gone. -/
def Object.ControlledBy (o : Object) (i : Instance) : Prop :=
  ∃ reference ∈ o.metadata.ownerReferences.getD [], reference.controller = some true ∧
    reference.apiVersion = i.kind.apiVersion ∧ reference.kind = i.kind.name ∧
    i.metadata.name = some reference.name ∧ i.metadata.uid = some reference.uid

theorem Object.controlledBy_of_mem {o : Object} {i : Instance} {reference : OwnerReference}
    (refers : (Owner.ofInstance i).reference = some reference)
    (member : reference ∈ o.metadata.ownerReferences.getD []) : o.ControlledBy i := by
  obtain ⟨name, isName, rest⟩ := Option.bind_eq_some_iff.mp refers
  obtain ⟨uid, isUid, last⟩ := Option.bind_eq_some_iff.mp rest
  obtain rfl := Option.some.inj last
  exact ⟨_, member, rfl, rfl, rfl, isName, isUid⟩

theorem Object.ControlledBy.congr {o o' : Object} {i : Instance} (controlled : o.ControlledBy i)
    (same : o'.metadata.ownerReferences = o.metadata.ownerReferences) : o'.ControlledBy i := by
  unfold ControlledBy
  rw [same]
  exact controlled

theorem MarkerStep.Settles.alike_of_absent {s : MarkerStep} {c c' : Cluster} {events : List Event}
    {result : StepResult} (settles : s.Settles c c' events result)
    (absent : c.find? s.slot = none) : c'.Alike c := by
  cases settles with
  | absent _ effect => exact effect
  | steady found =>
    rw [absent] at found
    cases found
  | amended found =>
    rw [absent] at found
    cases found

theorem StatusWriter.Settles.alike_of_absent {w : StatusWriter} {passError : Option String}
    {c c' : Cluster} {events : List Event} {result : Except StoreError StatusWrite}
    (settles : w.Settles passError c c' events result) (absent : c.find? w.slot = none) :
    c'.Alike c := by
  cases settles with
  | skipped _ effect => exact effect
  | unchanged found =>
    rw [absent] at found
    cases found
  | written found =>
    rw [absent] at found
    cases found

namespace AgentId
variable {a : AgentId} {i : Instance} {settings : Settings} {policy : RetryPolicy}
  {c c' start : Cluster} {slot : Slot} {o : Object} {step : Step} {before after : List Step}
  {events : List Event} {outcome : Outcome}

theorem housed_of_copy (copy : i.markerStep.slot = a.slot) : i.Housed := by
  obtain ⟨spec, isAgent⟩ := exists_spec copy
  simp [Instance.Housed, isAgent]

theorem not_provision (copy : i.markerStep.slot = a.slot) (p : ProvisionStep) :
    .provision p ∉ i.applySteps settings := by
  obtain ⟨spec, isAgent⟩ := exists_spec copy
  simp [Instance.applySteps, isAgent, Instance.applyStep]

theorem secretSlot_not_guarded (s : CredentialStep) : s.secretSlot ∉ a.guarded := by
  intro guarded
  rcases kind_of_guarded guarded with kind | kind <;> cases kind

theorem guarded_of_cleans (copy : i.markerStep.slot = a.slot) (cleans : i.Cleans settings slot) :
    slot ∈ a.guarded := by
  obtain ⟨b, r, steps, binding, role⟩ := cleanupSteps_of_copy copy settings
  obtain ⟨step, member, rfl⟩ := cleans
  rw [steps] at member
  rcases List.mem_cons.mp member with rfl | last
  · exact List.mem_cons.mpr (Or.inl binding)
  · rw [List.mem_singleton.mp last]
    exact List.mem_cons_of_mem _ (List.mem_singleton.mpr role)

theorem foreign_of_guarded (copy : i.markerStep.slot = a.slot) {r : Resource}
    (guarded : r.slot ∈ a.guarded) :
    (Owner.ofInstance i).sharesScope r.object.metadata.ns = false := by
  have wide : r.object.metadata.ns = none :=
    congrArg Key.ns (clusterName_of_guarded guarded : r.slot.key = .cluster a.clusterName)
  rw [wide]
  exact not_sharesScope copy

theorem owners_of_applied {s : ApplyStep} {r : Resource} (copy : i.markerStep.slot = a.slot)
    (owner : s.owner = .ofInstance i) (unowned : s.resource.object.Unowned)
    (covers : i.Covers settings (.apply s)) (desired : s.desired? = some r) (c : Cluster)
    (version : Nat) :
    (s.resource.slot ∉ a.guarded → (Cluster.stamp (c.applied r) version).ControlledBy i) ∧
      (s.resource.slot ∈ a.guarded → (Cluster.stamp (c.applied r) version).Unowned) := by
  have owners : (Cluster.stamp (c.applied r) version).metadata.ownerReferences.getD [] =
      if s.owner.sharesScope s.resource.object.metadata.ns then s.owner.reference.toList
      else [] := by
    show (c.applied r).metadata.ownerReferences.getD [] = _
    rw [Cluster.applied_owners]
    exact ApplyStep.owners_of_desired unowned desired
  constructor
  · intro narrow
    have shares : s.owner.sharesScope s.resource.object.metadata.ns = true :=
      covers.resolve_right fun cleans => narrow (guarded_of_cleans copy cleans)
    obtain ⟨foreign, _⟩ | ⟨reference, isReference, _⟩ := ApplyStep.cases_of_desired desired
    · rw [foreign] at shares
      cases shares
    · rw [if_pos shares, isReference] at owners
      rw [owner] at isReference
      refine Object.controlledBy_of_mem isReference ?_
      rw [owners]
      exact List.mem_singleton_self reference
  · intro guarded
    have foreign := foreign_of_guarded copy guarded
    rw [owner, if_neg (by simp [foreign])] at owners
    exact owners

structure Strays (a : AgentId) (i : Instance) (start : Cluster) (before : List Step)
    (c : Cluster) : Prop where
  ordered : c.inventory.Ordered
  gone : c.find? i.markerStep.slot = none
  fresh : ∀ slot o, start.find? slot = none → c.find? slot = some o →
    slot ∉ a.guarded → slot ∈ a.collected ∧ o.ControlledBy i
  there : (∀ s, .credential s ∉ before) → ∀ b ∈ before, (c.find? b.target).isSome
  bare : ∀ b ∈ before, b.target ∈ a.guarded → ∃ o, c.find? b.target = some o ∧ o.Unowned

theorem Strays.nil (ordered : c.inventory.Ordered) (gone : c.find? i.markerStep.slot = none) :
    a.Strays i c [] c where
  ordered := ordered
  gone := gone
  fresh slot o absent found := by
    rw [absent] at found
    cases found
  there := by simp
  bare := by simp

theorem find?_of_applies {s : ApplyStep} {d : Cluster} (makes : (Step.apply s).Makes c d) :
    ∃ r, s.desired? = some r ∧
      d.find? (Step.apply s).target = some (Cluster.stamp (c.applied r) (c.version + 1)) := by
  cases makes with
  | @applies _ r desired effect =>
    have same : (Step.apply s).target = r.slot := (ApplyStep.slot_of_desired desired).symm
    refine ⟨r, desired, ?_⟩
    rw [effect.find?, Cluster.find?_apply, if_pos same]

theorem step_cases (copy : i.markerStep.slot = a.slot) (member : step ∈ i.applySteps settings) :
    (∃ s, step = .apply s) ∨ ∃ s, step = .credential s := by
  have brings := Instance.brings_of_apply member
  cases step with
  | apply s => exact Or.inl ⟨s, rfl⟩
  | credential s => exact Or.inr ⟨s, rfl⟩
  | provision p => exact absurd member (not_provision copy p)
  | delete s => exact brings.elim
  | marker s => exact brings.elim

theorem unowned_of_makes {d : Cluster} (copy : i.markerStep.slot = a.slot)
    (member : step ∈ i.applySteps settings) (makes : step.Makes c d)
    (guarded : step.target ∈ a.guarded) : ∃ o, d.find? step.target = some o ∧ o.Unowned := by
  have brings := Instance.brings_of_apply member
  have covers := Instance.covers_of_apply (housed_of_copy copy) member
  rcases step_cases copy member with ⟨s, rfl⟩ | ⟨s, rfl⟩
  · obtain ⟨r, desired, left⟩ := find?_of_applies makes
    exact ⟨_, left,
      (owners_of_applied copy brings.1 brings.2.1.1 covers desired c _).2 guarded⟩
  · exact absurd guarded (secretSlot_not_guarded s)

namespace Strays
variable {d : Cluster}

theorem target_fresh (strays : a.Strays i start before c) (copy : i.markerStep.slot = a.slot)
    (member : step ∈ i.applySteps settings) (makes : step.Makes c d) (stays : ¬ step.Removes c)
    (absent : start.find? step.target = none) (found : d.find? step.target = some o)
    (narrow : step.target ∉ a.guarded) : step.target ∈ a.collected ∧ o.ControlledBy i := by
  have within : step.target ∈ a.collected :=
    ((managed_iff copy).mp (Instance.target_mem_managed member)).resolve_left narrow
  refine ⟨within, ?_⟩
  have brings := Instance.brings_of_apply member
  have covers := Instance.covers_of_apply (housed_of_copy copy) member
  rcases step_cases copy member with ⟨s, rfl⟩ | ⟨s, rfl⟩
  · obtain ⟨r, desired, left⟩ := find?_of_applies makes
    obtain rfl := Option.some.inj (left.symm.trans found)
    exact (owners_of_applied copy brings.1 brings.2.1.1 covers desired c _).1 narrow
  · cases makes with
    | drops unwanted now effect =>
      rw [effect.find?] at found
      cases there : c.find? s.secretSlot with
      | none =>
        rw [Cluster.delete_absent now there] at found
        exact (strays.fresh _ o absent found narrow).2
      | some secret =>
        have held : secret.metadata.finalizers.getD [] ≠ [] :=
          fun free => stays ⟨unwanted, secret, there, free⟩
        obtain ⟨marked, left, _, _, owners, _⟩ := Cluster.find?_delete_held now there held
        obtain rfl := Option.some.inj (left.symm.trans found)
        exact (strays.fresh _ secret absent there narrow).2.congr owners
    | keeps wanted account present effect =>
      exact (strays.fresh _ o absent ((effect.find? _).symm.trans found) narrow).2
    | @issues _ credential r wanted account desired effect =>
      have same : (Step.credential s).target = r.slot := (Step.slot_of_issued desired).symm
      rw [effect.find?, Cluster.find?_apply, if_pos same] at found
      obtain rfl := Option.some.inj found
      have covered : i.Covers settings (.apply (s.applied credential)) := Or.inl covers
      exact (owners_of_applied (s := s.applied credential) copy brings
        (s.plain_applied credential).1.1 covered desired c _).1 narrow

theorem extend_of_stays (strays : a.Strays i start before c) (copy : i.markerStep.slot = a.slot)
    (split : i.applySteps settings = before ++ step :: after) (makes : step.Makes c d)
    (stays : ¬ step.Removes c) : a.Strays i start (before ++ [step]) d := by
  have member : step ∈ i.applySteps settings := by simp [split]
  have apart : ∀ b ∈ before, d.find? b.target = c.find? b.target := fun b earlier =>
    makes.find?_of_ne stays (Instance.apart_of_split split earlier).2.2.symm
  refine ⟨makes.ordered strays.ordered, ?_, ?_, ?_, ?_⟩
  · rw [makes.find?_of_ne stays (Instance.slot_ne_target member)]
    exact strays.gone
  · intro slot o absent found narrow
    by_cases here : slot = step.target
    · subst here
      exact strays.target_fresh copy member makes stays absent found narrow
    · rw [makes.find?_of_ne stays here] at found
      exact strays.fresh slot o absent found narrow
  · intro none_credential b inBefore
    rcases List.mem_append.mp inBefore with earlier | last
    · rw [apart b earlier]
      exact strays.there (fun s early => none_credential s (List.mem_append_left _ early)) b earlier
    · obtain rfl := List.mem_singleton.mp last
      rcases step_cases copy member with ⟨s, rfl⟩ | ⟨s, rfl⟩
      · obtain ⟨r, _, left⟩ := find?_of_applies makes
        rw [left]
        rfl
      · exact absurd inBefore (none_credential s)
  · intro b inBefore guarded
    rcases List.mem_append.mp inBefore with earlier | last
    · rw [apart b earlier]
      exact strays.bare b earlier guarded
    · obtain rfl := List.mem_singleton.mp last
      exact unowned_of_makes copy member makes guarded

theorem extend_of_removes (strays : a.Strays i start before c)
    (split : i.applySteps settings = before ++ step :: after) (makes : step.Makes c d)
    (removes : step.Removes c) : a.Strays i start (before ++ [step]) d := by
  have member : step ∈ i.applySteps settings := by simp [split]
  obtain ⟨s, now, rfl, unwanted, effect⟩ :=
    makes.exists_drop (Instance.brings_of_apply member) removes
  have earlierOf {slot : Slot} {o : Object} (found : d.find? slot = some o)
      (elsewhere : slot ≠ s.secretSlot) : c.find? slot = some o := by
    rw [effect.find?] at found
    exact Cluster.find?_of_delete now strays.ordered elsewhere found
  have removed : d.find? s.secretSlot = none := by
    obtain ⟨_, secret, there, free⟩ := removes
    rw [effect.find?, Cluster.delete_free now there free]
    exact Cluster.find?_remove_self c _
  refine ⟨makes.ordered strays.ordered, ?_, ?_, ?_, ?_⟩
  · refine Option.eq_none_iff_forall_ne_some.mpr fun o found => ?_
    have there := earlierOf found (Instance.slot_ne_target member)
    rw [strays.gone] at there
    cases there
  · intro slot o absent found narrow
    refine strays.fresh slot o absent (earlierOf found ?_) narrow
    rintro rfl
    rw [removed] at found
    cases found
  · intro none_credential
    exact absurd (List.mem_append_right before (List.mem_singleton_self _)) (none_credential s)
  · intro b inBefore guarded
    rcases List.mem_append.mp inBefore with earlier | last
    · obtain ⟨o, there, unowned⟩ := strays.bare b earlier guarded
      refine ⟨o, ?_, unowned⟩
      rw [effect.find?, Cluster.find?_delete_of_ne _ (.of_found there unowned)]
      · exact there
      · exact (Instance.apart_of_split split earlier).2.2.symm
    · rw [List.mem_singleton.mp last] at guarded
      exact absurd guarded (secretSlot_not_guarded s)

end Strays

theorem Strays.threads (copy : i.markerStep.slot = a.slot)
    (identified : (Owner.ofInstance i).reference.isSome) :
    Step.Threads (a.Strays i start) (fun _ => True) events (i.applySteps settings) := by
  intro before step after split c d own result strays run obeys _
  have member : step ∈ i.applySteps settings := by simp [split]
  have ready : step.Ready c := by
    refine Step.ready_of_brings (Instance.brings_of_apply member) identified ?_
    rintro s rfl _
    obtain ⟨b, earlier, account⟩ := Instance.account_before split
    rw [← account]
    exact strays.there (Instance.credential_notMem_before split) _ earlier
  obtain ⟨fine, makes⟩ := Step.run_makes ready run obeys
  refine ⟨fine, fun _ _ => trivial, ?_⟩
  by_cases removes : step.Removes c
  · exact strays.extend_of_removes split makes removes
  · exact strays.extend_of_stays copy split makes removes

theorem alike_of_anonymous (copy : i.markerStep.slot = a.slot)
    (live : i.metadata.isDeleting = false) (gone : c.find? i.markerStep.slot = none)
    (anonymous : (Owner.ofInstance i).reference = none)
    (run : (i.pass settings policy).Runs events outcome) (obeys : c.Obeys events c') :
    c'.Alike c := by
  obtain ⟨spec, isAgent⟩ := exists_spec copy
  rcases Instance.pass_results run with
    ⟨deleting, _⟩ | ⟨body, status, results, written, rfl, ran, writing, _⟩
  · rw [live] at deleting
    cases deleting
  · obtain ⟨rfl, _⟩ := Instance.stopped_of_anonymous isAgent anonymous live ran
    refine (StatusWriter.run_effect (fun o found => ?_) writing obeys).alike_of_absent gone
    rw [show c.find? (i.statusWriter settings policy).slot = none from gone] at found
    cases found

theorem exists_step_of_guarded (copy : i.markerStep.slot = a.slot) (settings : Settings)
    (guarded : slot ∈ a.guarded) : ∃ step ∈ i.applySteps settings, step.target = slot := by
  obtain ⟨spec, isAgent⟩ := exists_spec copy
  have name := clusterName_of_copy copy settings
  simp only [AgentId.guarded, List.mem_cons, List.not_mem_nil, or_false] at guarded
  rcases guarded with rfl | rfl
  · refine ⟨i.applyStep (Manifest.clusterRoleBinding (.ofInstance i settings) .full).resource .stop,
      by simp [Instance.applySteps, isAgent], ?_⟩
    rw [binding, ← name]
    rfl
  · refine ⟨i.applyStep (Manifest.clusterRole (.ofInstance i settings) .full).resource .stop,
      by simp [Instance.applySteps, isAgent], ?_⟩
    rw [role, ← name]
    rfl

theorem strays_of_pass (copy : i.markerStep.slot = a.slot) (live : i.metadata.isDeleting = false)
    (ordered : c.inventory.Ordered) (gone : c.find? i.markerStep.slot = none)
    (identified : (Owner.ofInstance i).reference.isSome)
    (run : (i.pass settings policy).Runs events outcome) (obeys : c.Obeys events c') :
    ∃ d, a.Strays i c (i.applySteps settings) d ∧ c'.Alike d := by
  have own := Instance.ownSteps_of_live live settings
  have threads : Step.Threads (a.Strays i c) (fun _ => True) events (i.ownSteps settings) :=
    own ▸ Strays.threads copy identified
  obtain ⟨_, _, _, d, d', _, _, _, _, strays, marking, reporting, _⟩ :=
    Instance.pass_effect run obeys (by simp [live]) threads (.nil ordered gone)
      fun d strays o found => by
        rw [strays.gone] at found
        cases found
  rw [own] at strays
  have marked : d'.Alike d := marking.alike_of_absent strays.gone
  have reported : c'.Alike d' :=
    reporting.alike_of_absent ((marked.find? _).trans strays.gone)
  exact ⟨d, strays, reported.trans marked⟩

/-- All that is new is collected with the instance, and no role or binding is among it. -/
def Collectable (i : Instance) (c c' : Cluster) : Prop :=
  ∀ slot o, c.find? slot = none → c'.find? slot = some o →
    o.ControlledBy i ∧ slot.kind ≠ .clusterRole ∧ slot.kind ≠ .clusterRoleBinding

theorem not_collectable_of_guarded (guarded : slot ∈ a.guarded) (absent : c.find? slot = none)
    (found : c'.find? slot = some o) : ¬ Collectable i c c' := by
  intro collectable
  obtain ⟨_, notRole, notBinding⟩ := collectable slot o absent found
  rcases kind_of_guarded guarded with kind | kind
  · exact notBinding kind
  · exact notRole kind

/-- A pass over a live copy of an agent that is no longer stored, on a store that never fails: what
it leaves that was not there refers to the agent, but for the role and its binding. These are there
afterwards and refer to nobody, as soon as the agent has a name and uid to be referred to, so
something is left behind for good exactly if one of them was not there before. -/
theorem collectable_iff_permissions_there (copy : i.markerStep.slot = a.slot)
    (live : i.metadata.isDeleting = false) (ordered : c.inventory.Ordered)
    (gone : c.find? a.slot = none) (run : (i.pass settings policy).Runs events outcome)
    (obeys : c.Obeys events c') :
    (∀ slot o, c.find? slot = none → c'.find? slot = some o →
      o.ControlledBy i ∨ slot = a.role ∨ slot = a.binding) ∧
    ((Owner.ofInstance i).reference.isSome → ∀ slot ∈ a.guarded,
      ∃ o, c'.find? slot = some o ∧ o.Unowned) ∧
    (Collectable i c c' ↔ (Owner.ofInstance i).reference = none ∨
      ∀ slot ∈ a.guarded, (c.find? slot).isSome) := by
  rw [← copy] at gone
  cases anonymous : (Owner.ofInstance i).reference with
  | none =>
    have alike := alike_of_anonymous copy live gone anonymous run obeys
    have nothing {slot : Slot} {o : Object} (absent : c.find? slot = none) :
        c'.find? slot ≠ some o := by
      rw [alike.find?, absent]
      exact (Option.some_ne_none o).symm
    refine ⟨fun slot o absent found => absurd found (nothing absent), fun identified => ?_, ?_⟩
    · cases identified
    · exact ⟨fun _ => Or.inl rfl, fun _ slot o absent found => absurd found (nothing absent)⟩
  | some reference =>
    have identified : (Owner.ofInstance i).reference.isSome := by rw [anonymous]; rfl
    obtain ⟨d, strays, alike⟩ := strays_of_pass copy live ordered gone identified run obeys
    have bare : ∀ slot ∈ a.guarded, ∃ o, c'.find? slot = some o ∧ o.Unowned := by
      intro slot guarded
      obtain ⟨step, member, rfl⟩ := exists_step_of_guarded copy settings guarded
      obtain ⟨o, found, unowned⟩ := strays.bare step member guarded
      exact ⟨o, (alike.find? _).trans found, unowned⟩
    have fresh {slot : Slot} {o : Object} (absent : c.find? slot = none)
        (found : c'.find? slot = some o) (narrow : slot ∉ a.guarded) :
        slot ∈ a.collected ∧ o.ControlledBy i :=
      strays.fresh slot o absent ((alike.find? _).symm.trans found) narrow
    refine ⟨?_, fun _ => bare, ?_, ?_⟩
    · intro slot o absent found
      by_cases guarded : slot ∈ a.guarded
      · simp only [AgentId.guarded, List.mem_cons, List.not_mem_nil, or_false] at guarded
        exact Or.inr guarded.symm
      · exact Or.inl (fresh absent found guarded).2
    · intro collectable
      refine Or.inr fun slot guarded => ?_
      rw [Option.isSome_iff_ne_none]
      intro absent
      obtain ⟨o, found, _⟩ := bare slot guarded
      exact not_collectable_of_guarded guarded absent found collectable
    · rintro (⟨⟨⟩⟩ | present) slot o absent found
      have narrow : slot ∉ a.guarded := by
        intro guarded
        have there := present slot guarded
        rw [absent] at there
        cases there
      obtain ⟨collected, controlled⟩ := fresh absent found narrow
      refine ⟨controlled, ?_⟩
      simp only [AgentId.collected, List.mem_cons, List.not_mem_nil, or_false] at collected
      rcases collected with rfl | rfl | rfl | rfl | rfl <;> simp

theorem exists_strays_of_vanished (a : AgentId) : ∃ events outcome c,
    ((a.marked none).pass {} {}).Runs events outcome ∧ ({} : Cluster).Obeys events c ∧
    c.inventory.Ordered ∧ c.find? a.slot = none ∧
    ∀ slot ∈ a.guarded, ∃ o, c.find? slot = some o ∧ o.Unowned := by
  have ordered : ({} : Cluster).inventory.Ordered := List.Pairwise.nil
  obtain ⟨events, outcome, c, run, obeys⟩ :=
    Cluster.Obeys.exists_run {} ((a.marked none).pass {} {})
  obtain ⟨d, strays, alike⟩ := strays_of_pass (a := a) rfl rfl ordered rfl rfl run obeys
  refine ⟨events, outcome, c, run, obeys, obeys.serves.ordered ordered,
    (alike.find? _).trans strays.gone, fun slot guarded => ?_⟩
  obtain ⟨step, member, rfl⟩ :=
    exists_step_of_guarded (a := a) (i := a.marked none) rfl {} guarded
  obtain ⟨o, found, unowned⟩ := strays.bare step member guarded
  exact ⟨o, (alike.find? _).trans found, unowned⟩

/-- Another pass over the copy leaves nothing more, now that the role and its binding are there. -/
theorem vanished_telemetry_leaves_no_more :
    let a : AgentId := ⟨"observability", "telemetry"⟩
    ∃ events outcome c c', ((a.marked none).pass {} {}).Runs events outcome ∧
      c.Obeys events c' ∧ c.inventory.Ordered ∧ c.find? a.slot = none ∧
      (∀ slot ∈ a.guarded, (c.find? slot).isSome) ∧ Collectable (a.marked none) c c' := by
  intro a
  obtain ⟨_, _, c, _, _, ordered, gone, bare⟩ := exists_strays_of_vanished a
  have present : ∀ slot ∈ a.guarded, (c.find? slot).isSome := by
    intro slot guarded
    obtain ⟨o, found, _⟩ := bare slot guarded
    rw [found]
    rfl
  obtain ⟨events, outcome, c', run, obeys⟩ :=
    Cluster.Obeys.exists_run c ((a.marked none).pass {} {})
  obtain ⟨_, _, collectable⟩ :=
    collectable_iff_permissions_there (a := a) rfl rfl ordered gone run obeys
  exact ⟨events, outcome, c, c', run, obeys, ordered, gone, present,
    collectable.mpr (Or.inr present)⟩

/-- The first one leaves them where nothing was, and nobody ever deletes them. -/
theorem vanished_telemetry_leaves_permissions :
    let a : AgentId := ⟨"observability", "telemetry"⟩
    (a.marked none).metadata.isDeleting = false ∧ ({} : Cluster).find? a.slot = none ∧
      ∃ events outcome c, ((a.marked none).pass {} {}).Runs events outcome ∧
        ({} : Cluster).Obeys events c ∧ (c.find? a.role).isSome ∧ (c.find? a.binding).isSome ∧
        ¬ Collectable (a.marked none) {} c := by
  intro a
  obtain ⟨events, outcome, c, run, obeys, _, _, bare⟩ := exists_strays_of_vanished a
  obtain ⟨role, hasRole, _⟩ := bare a.role (by simp [guarded])
  obtain ⟨binding, hasBinding, _⟩ := bare a.binding (by simp [guarded])
  refine ⟨rfl, rfl, events, outcome, c, run, obeys, by rw [hasRole]; rfl,
    by rw [hasBinding]; rfl, ?_⟩
  exact not_collectable_of_guarded (a := a) (by simp [guarded]) rfl hasRole

end AgentId
end AgentOperator
