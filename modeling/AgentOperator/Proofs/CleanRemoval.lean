import AgentOperator.Proofs.Footprint

/-!
Creating, reconciling and deleting an instance leaves no trace. The cleanup deletes its objects one
by one and nothing goes with them, as nothing else refers to uids that were assigned to them; then
the instance goes and takes along whatever is left. It needs a name to be referred to by, and a
scanner must not be stored in another namespace than the one it works in: references do not reach
across namespaces, and what is applied there without one stays.
-/
namespace AgentOperator

namespace Cluster
variable {c : Cluster} {slot : Slot} {stored : Object}

theorem delete_marks (now : Timestamp) (found : c.find? slot = some stored)
    (held : stored.metadata.finalizers.getD [] ≠ []) (live : stored.metadata.isDeleting = false) :
    (c.delete now slot).2 = (c.write slot (stored.withMetadata fun m =>
      { m with deletionTimestamp := some { now with nanos := 0 } })).2 := by
  unfold delete
  rw [found]
  dsimp only
  rw [if_neg (by simpa using held), if_neg (by simp [live])]

end Cluster

namespace MarkerStep
variable {s : MarkerStep} {stored changed : Object}

theorem amended_of_deleting (marked : stored.metadata.finalizers.getD [] = [s.marker])
    (deleting : stored.metadata.isDeleting = true) :
    s.amended? stored = some (stored.withMetadata (·.removeMarker s.marker)) := by
  have has : stored.metadata.hasMarker s.marker = true := by
    unfold Metadata.hasMarker
    rw [marked]
    simp
  unfold amended? MarkerTransition.of
  rw [has, deleting]
  rfl

theorem released_of_deleting (marked : stored.metadata.finalizers.getD [] = [s.marker])
    (deleting : stored.metadata.isDeleting = true) (amended : s.amended? stored = some changed) :
    Cluster.isReleased (Cluster.keepOwn stored changed) = true := by
  obtain ⟨_, finalizers, deletion⟩ := keepOwn_of_amended amended
  have bare : changed.metadata.finalizers.getD [] = [] := by
    rw [amended_of_deleting marked deleting] at amended
    rw [← Option.some.inj amended]
    show (stored.metadata.finalizers.map (·.filter (· ≠ s.marker))).getD [] = []
    cases held : stored.metadata.finalizers with
    | none => rfl
    | some finalizers =>
      rw [held] at marked
      obtain rfl : finalizers = [s.marker] := marked
      simp
  unfold Metadata.isDeleting at deleting
  unfold Cluster.isReleased Metadata.isDeleting
  rw [finalizers, deletion, deleting, bare]
  rfl

end MarkerStep

theorem Passes.append {settings : Settings} {policy : RetryPolicy} {slot : Slot}
    {c c' c'' : Cluster} {first last : List Outcome}
    (head : Passes settings policy slot c first c')
    (tail : Passes settings policy slot c' last c'') :
    Passes settings policy slot c (first ++ last) c'' := by
  induction head with
  | none c => exact tail
  | more copy run obeys _ ih => exact .more copy run obeys (ih tail)

namespace Instance
variable {i j : Instance} {settings : Settings} {policy : RetryPolicy} {S c c' start : Cluster}
  {first stored o : Object} {r : Resource} {slot other : Slot} {step : Step} {events : List Event}
  {outcome : Outcome} {outcomes : List Outcome}

theorem CopyAt.exists_pass (copy : i.CopyAt slot c stored) (settings : Settings)
    (policy : RetryPolicy) : ∃ outcome c', Passes settings policy slot c [outcome] c' := by
  obtain ⟨events, outcome, c', run, obeys⟩ :=
    Cluster.Obeys.exists_run c (i.pass settings policy)
  exact ⟨outcome, c', .more copy run obeys (.none c')⟩

/-- The instance as it is first stored, where there was nothing of it, under uids that nothing
refers to. -/
structure Arrives (i : Instance) (settings : Settings) (S start : Cluster) (first : Object) :
    Prop where
  ordered : S.inventory.Ordered
  absent : S.find? i.markerStep.slot = none
  vacant : ∀ slot ∈ i.managed settings, S.find? slot = none
  found : start.find? i.markerStep.slot = some first
  others : ∀ slot, slot ≠ i.markerStep.slot → start.find? slot = S.find? slot
  uid : first.metadata.uid = some (Cluster.freshUid i.markerStep.slot)
  bears : i.metadata.uid = first.metadata.uid
  unforeseen : ∀ slot ∈ i.markerStep.slot :: i.managed settings,
    start.Unreferred (Cluster.freshUid slot)

theorem Arrives.kin (arrives : i.Arrives settings S start first) (kin : i.Kin j) :
    j.Arrives settings S start first where
  ordered := arrives.ordered
  absent := kin.markerStep_eq ▸ arrives.absent
  vacant := kin.managed_eq settings ▸ arrives.vacant
  found := kin.markerStep_eq ▸ arrives.found
  others := kin.markerStep_eq ▸ arrives.others
  uid := kin.markerStep_eq ▸ arrives.uid
  bears := kin.uid.trans arrives.bears
  unforeseen := by
    rw [kin.markerStep_eq, kin.managed_eq]
    exact arrives.unforeseen

theorem mem_managed_of_cleanup (member : step ∈ i.cleanupSteps settings) :
    step.target ∈ i.managed settings := by
  obtain ⟨resource, rfl⟩ := cases_of_cleanup member
  exact mem_managed.mpr ⟨_, Or.inr member, List.mem_singleton_self _⟩

theorem Footprint.alike (footprint : i.Footprint settings start first c stored)
    (alike : c'.Alike c) : i.Footprint settings start first c' stored where
  ordered := alike.inventory ▸ footprint.ordered
  found := (alike.find? _).trans footprint.found
  persists := footprint.persists
  others := fun slot different unmanaged =>
    (alike.find? slot).trans (footprint.others slot different unmanaged)
  tidy := fun slot member o there =>
    footprint.tidy slot member o ((alike.find? slot).symm.trans there)

theorem Footprint.write (footprint : i.Footprint settings start first c stored) {written : Object}
    (persists : stored.Persists written) :
    i.Footprint settings start first (c.write i.markerStep.slot written).2
      (Cluster.stamp written (c.version + 1)) where
  ordered := Cluster.ordered_write footprint.ordered _ _
  found := Cluster.find?_write_self _ _ _
  persists := footprint.persists.trans (persists.stamp _)
  others := by
    intro slot different unmanaged
    rw [Cluster.find?_write_of_ne different]
    exact footprint.others slot different unmanaged
  tidy := by
    intro slot member o there
    rw [Cluster.find?_write_of_ne] at there
    · exact footprint.tidy slot member o there
    · rintro rfl
      exact i.slot_notMem_managed settings member

theorem Footprint.unreferring (footprint : i.Footprint settings start first c stored)
    (arrives : i.Arrives settings S start first) {s : Slot} (there : c.find? s = some o)
    (unmanaged : s ∉ i.managed settings) (own : slot ∈ i.markerStep.slot :: i.managed settings) :
    ¬ o.RefersTo (Cluster.freshUid slot) := by
  by_cases home : s = i.markerStep.slot
  · subst home
    obtain rfl : stored = o := Option.some.inj (footprint.found.symm.trans there)
    have unreferred := arrives.unforeseen slot own _ first arrives.found
    unfold Object.RefersTo at unreferred ⊢
    rw [footprint.persists.owners]
    exact unreferred
  · rw [footprint.others s home unmanaged] at there
    exact arrives.unforeseen slot own s o there

theorem Footprint.find?_remove (footprint : i.Footprint settings start first c stored)
    (arrives : i.Arrives settings S start first) (found : c.find? slot = some o)
    (own : slot ∈ i.markerStep.slot :: i.managed settings) (different : other ≠ slot)
    (unmanaged : other ∉ i.managed settings) : (c.remove slot).find? other = c.find? other := by
  refine Cluster.find?_remove_of_spared
    (fun uid => ∃ s ∈ i.markerStep.slot :: i.managed settings, uid = Cluster.freshUid s)
    (· ∉ i.managed settings) footprint.ordered found different unmanaged ?_ ⟨?_, ?_⟩
  · intro uid bears
    refine ⟨slot, own, ?_⟩
    rcases List.mem_cons.mp own with rfl | member
    · obtain rfl : stored = o := Option.some.inj (footprint.found.symm.trans found)
      rw [footprint.persists.uid, arrives.uid] at bears
      exact (Option.some.inj bears).symm
    · rw [(footprint.tidy slot member o found).uid] at bears
      exact (Option.some.inj bears).symm
  · rintro s o there spared uid ⟨owner, within, rfl⟩
    have there' := footprint.ordered.find?_of_sublist List.filter_sublist there
    exact footprint.unreferring arrives there' spared within
  · intro s o there notSpared
    right
    intro uid bears
    have there' := footprint.ordered.find?_of_sublist List.filter_sublist there
    have member : s ∈ i.managed settings := Decidable.not_not.mp notSpared
    rw [(footprint.tidy s member o there').uid] at bears
    exact ⟨s, List.mem_cons_of_mem _ member, (Option.some.inj bears).symm⟩

theorem Footprint.delete (footprint : i.Footprint settings start first c stored)
    (arrives : i.Arrives settings S start first) (member : slot ∈ i.managed settings)
    (now : Timestamp) :
    i.Footprint settings start first (c.delete now slot).2 stored ∧
      (c.delete now slot).2.find? slot = none := by
  cases found : c.find? slot with
  | none =>
    rw [Cluster.delete_absent now found]
    exact ⟨footprint, found⟩
  | some o =>
    rw [Cluster.delete_free now found (footprint.tidy slot member o found).free]
    have kept (other : Slot) (different : other ≠ slot) (unmanaged : other ∉ i.managed settings) :
        (c.remove slot).find? other = c.find? other :=
      footprint.find?_remove arrives found (List.mem_cons_of_mem _ member) different unmanaged
    refine ⟨⟨footprint.ordered.sublist (Inventory.remove_sublist _ _), ?_, footprint.persists,
      ?_, ?_⟩, Cluster.find?_remove_self c slot⟩
    · rw [kept _ _ (i.slot_notMem_managed settings)]
      · exact footprint.found
      · rintro rfl
        exact i.slot_notMem_managed settings member
    · intro other different unmanaged
      rw [kept other (fun same => unmanaged (same ▸ member)) unmanaged]
      exact footprint.others other different unmanaged
    · intro other within o there
      exact footprint.tidy other within o (Cluster.find?_of_remove footprint.ordered there)

theorem Footprint.restored (footprint : i.Footprint settings start first c stored)
    (arrives : i.Arrives settings S start first)
    (cleaned : ∀ slot, i.Cleans settings slot → c.find? slot = none) :
    (c.remove i.markerStep.slot).inventory = S.inventory := by
  refine Inventory.Ordered.ext (footprint.ordered.sublist (Inventory.remove_sublist _ _))
    arrives.ordered fun slot => ?_
  show (c.remove i.markerStep.slot).find? slot = S.find? slot
  by_cases home : slot = i.markerStep.slot
  · rw [home, Cluster.find?_remove_self, arrives.absent]
  by_cases member : slot ∈ i.managed settings
  · rw [arrives.vacant slot member]
    cases there : c.find? slot with
    | none =>
      cases left : (c.remove i.markerStep.slot).find? slot with
      | none => rfl
      | some o =>
        rw [Cluster.find?_of_remove footprint.ordered left] at there
        cases there
    | some o =>
      rcases (footprint.tidy slot member o there).goes with ⟨uid, same, refers⟩ | cleans
      · refine Cluster.find?_remove_of_owned footprint.ordered footprint.found ?_ there refers
        rw [footprint.persists.uid, ← arrives.bears]
        exact same
      · rw [cleaned slot cleans] at there
        cases there
  · rw [footprint.find?_remove arrives footprint.found List.mem_cons_self home member,
      footprint.others slot home member, arrives.others slot home]

theorem Footprint.threads (arrives : i.Arrives settings S start first) :
    Step.Threads (fun before d => i.Footprint settings start first d stored ∧
      ∀ step ∈ before, d.find? step.target = none) (fun _ => True) events
      (i.cleanupSteps settings) := by
  intro before step after split d d' own result kept run obeys _
  obtain ⟨footprint, absent⟩ := kept
  have within : step ∈ i.cleanupSteps settings := by simp [split]
  have member := mem_managed_of_cleanup within
  obtain ⟨resource, rfl⟩ := cases_of_cleanup within
  obtain ⟨fine, now, effect, _⟩ := DeleteStep.effect run obeys
  obtain ⟨footprint', gone⟩ := footprint.delete arrives member now
  refine ⟨fine, fun _ _ => trivial, footprint'.alike effect, ?_⟩
  intro a inSteps
  rw [effect.find?]
  by_cases same : a.target = resource.slot
  · rw [same]
    exact gone
  · have earlier : a ∈ before := by
      rcases List.mem_append.mp inSteps with early | last
      · exact early
      · rw [List.mem_singleton.mp last] at same
        exact absurd rfl same
    refine Option.eq_none_iff_forall_ne_some.mpr fun o left => ?_
    have before := Cluster.find?_of_delete now footprint.ordered same left
    rw [absent a earlier] at before
    cases before

theorem Footprint.settled (footprint : i.Footprint settings start first c stored)
    (arrives : i.Arrives settings S start first)
    (key : stored.metadata.key = i.markerStep.key)
    (marked : stored.metadata.finalizers.getD [] = [Conventions.cleanupMarker])
    (deleting : stored.metadata.isDeleting = true)
    (cleaned : ∀ step ∈ i.cleanupSteps settings, c.find? step.target = none)
    {result : StepResult} (settles : i.markerStep.Settles c c' events result) :
    c'.find? i.markerStep.slot = none ∧ c'.inventory = S.inventory := by
  have removes : i.markerStep.amended? stored ≠ none := by
    rw [MarkerStep.amended_of_deleting marked deleting]
    simp
  cases settles with
  | absent gone effect =>
    rw [footprint.found] at gone
    cases gone
  | @steady o found steady effect =>
    obtain rfl : stored = o := Option.some.inj (footprint.found.symm.trans found)
    exact absurd steady removes
  | @amended _ o changed found amended effect =>
    obtain rfl : stored = o := Option.some.inj (footprint.found.symm.trans found)
    have persists := (MarkerStep.keepOwn_of_amended amended).1
    have released := MarkerStep.released_of_deleting marked deleting amended
    rw [MarkerStep.replace_of_amended found key amended, if_pos released] at effect
    refine ⟨?_, effect.inventory.trans ((footprint.write persists).restored arrives ?_)⟩
    · rw [effect.find?]
      exact Cluster.find?_remove_self _ _
    · rintro slot ⟨step, within, rfl⟩
      rw [Cluster.find?_write_of_ne, cleaned step within]
      intro same
      exact i.slot_notMem_managed settings (same ▸ mem_managed_of_cleanup within)

theorem Footprint.cleanup (footprint : i.Footprint settings start first c stored)
    (arrives : i.Arrives settings S start first) (copy : i.CopyAt slot c stored)
    (marked : stored.metadata.finalizers.getD [] = [Conventions.cleanupMarker])
    (deleting : stored.metadata.isDeleting = true)
    (run : (i.pass settings policy).Runs events outcome) (obeys : c.Obeys events c') :
    outcome.error = none ∧ c'.inventory = S.inventory := by
  have cleaning : i.ownSteps settings = i.cleanupSteps settings :=
    if_pos (by rw [copy.metadata]; exact deleting)
  have active : i.metadata.hasMarker Conventions.cleanupMarker = true := by
    unfold Metadata.hasMarker
    rw [copy.metadata, marked]
    simp
  have threads : Step.Threads (fun before d => i.Footprint settings start first d stored ∧
      ∀ step ∈ before, d.find? step.target = none) (fun _ => True) events
      (i.ownSteps settings) := by
    rw [cleaning]
    exact Footprint.threads arrives
  obtain ⟨own, marker, status, c₁, c₂, result, written, rfl, _, kept, marking, reporting, rfl⟩ :=
    pass_effect run obeys (fun _ => active) threads ⟨footprint, by simp⟩ fun d kept o there =>
      Option.some.inj (kept.1.found.symm.trans there) ▸ copy.key_eq
  rw [cleaning] at kept
  obtain ⟨gone, restored⟩ :=
    kept.1.settled arrives copy.key_eq marked deleting kept.2 marking
  refine ⟨rfl, ?_⟩
  cases reporting with
  | skipped _ still => rw [still.inventory, restored]
  | unchanged there =>
    have none := gone.symm.trans there
    cases none
  | written there =>
    have none := gone.symm.trans there
    cases none

theorem Standing.delete (standing : i.Standing settings start first c stored)
    (arrives : i.Arrives settings S start first) (now : Timestamp) :
    ((c.delete now i.markerStep.slot).2.find? i.markerStep.slot = none ∧
      (c.delete now i.markerStep.slot).2.inventory = S.inventory) ∨
    ∃ o, i.Footprint settings start first (c.delete now i.markerStep.slot).2 o ∧
      o.metadata.finalizers.getD [] = [Conventions.cleanupMarker] ∧
      o.metadata.isDeleting = true := by
  rcases standing.stage with ⟨bare, untouched⟩ | ⟨marked, live⟩
  · left
    rw [Cluster.delete_free now standing.found bare]
    refine ⟨Cluster.find?_remove_self _ _, standing.restored arrives ?_⟩
    rintro slot ⟨step, within, rfl⟩
    exact untouched _ (mem_managed_of_cleanup within)
  · right
    rw [Cluster.delete_marks now standing.found (by simp [marked]) live]
    exact ⟨_, standing.write ⟨rfl, rfl, rfl, rfl, rfl, rfl⟩, marked, rfl⟩

theorem Standing.passes (standing : i.Standing settings start first c stored)
    (arrives : i.Arrives settings S start first) (original : i.CopyAt slot start first)
    (housed : i.Housed) (named : i.metadata.name.isSome) (fits : FitsStored i.metadata.generation)
    (passes : Passes settings policy slot c outcomes c') :
    (∀ outcome ∈ outcomes, outcome.error = none) ∧ ∃ o, i.Standing settings start first c' o := by
  have identified : (Owner.ofInstance i).reference.isSome := by
    refine Owner.reference_isSome named ?_
    rw [arrives.bears, arrives.uid]
    rfl
  induction passes generalizing stored with
  | none c => exact ⟨by simp, stored, standing⟩
  | more copy run obeys later ih =>
    have there := standing.found
    rw [original.place, copy.found] at there
    obtain rfl := Option.some.inj there
    have kin := original.kin copy standing.persists
    have housed' : Housed _ := fun spec isScanner =>
      kin.ns ▸ housed spec (kin.spec.symm.trans isScanner)
    obtain ⟨fine, o, standing'⟩ := (standing.kin kin).pass copy housed' (kin.owner_eq ▸ identified)
      (by rw [copy.metadata, standing.persists.generation, ← original.metadata]; exact fits)
      run obeys
    obtain ⟨rest, last⟩ := ih (standing'.kin kin.symm)
    refine ⟨?_, last⟩
    intro outcome member
    rcases List.mem_cons.mp member with rfl | later
    · exact fine
    · exact rest outcome later

theorem Standing.departs (standing : i.Standing settings start first c stored)
    (arrives : i.Arrives settings S start first) (original : i.CopyAt slot start first)
    (now : Timestamp) (policy : RetryPolicy) :
    ((c.delete now slot).2.find? slot = none ∧ (c.delete now slot).2.inventory = S.inventory) ∨
    ∃ (j : Instance) (o : Object), j.CopyAt slot (c.delete now slot).2 o ∧
      ∀ outcome c', Passes settings policy slot (c.delete now slot).2 [outcome] c' →
        outcome.error = none ∧ c'.inventory = S.inventory := by
  obtain rfl := original.place
  rcases standing.delete arrives now with gone | ⟨o, footprint, marked, deleting⟩
  · exact Or.inl gone
  · right
    obtain ⟨j, copy⟩ := original.exists_later footprint.found footprint.persists
    refine ⟨j, o, copy, ?_⟩
    intro outcome c' passes
    cases passes with
    | more copy' run obeys later =>
      cases later
      obtain rfl := Option.some.inj (footprint.found.symm.trans copy'.found)
      have kin := original.kin copy' footprint.persists
      exact (footprint.kin kin).cleanup (arrives.kin kin) copy' marked deleting run obeys

def asCreated (S : Cluster) (r : Resource) (spec : Spec) : Instance :=
  { metadata := (S.insert r).1.metadata, spec }

theorem copy_of_create (spec : Spec) {json : Json} (absent : S.find? r.slot = none)
    (kind : (asCreated S r spec).kind = r.kind) (there : r.object.data.get? "spec" = some json)
    (read : spec.ReadFrom json) :
    (asCreated S r spec).CopyAt r.slot (S.create r).2 (S.insert r).1 where
  found := by
    rw [Cluster.create_absent absent]
    exact Cluster.find?_write_self S r.slot _
  place := by
    show (⟨(asCreated S r spec).kind, r.key⟩ : Slot) = ⟨r.kind, r.key⟩
    rw [kind]
  metadata := rfl
  spec := ⟨json, there, read⟩

theorem unreferred_of_unowned (absent : S.find? r.slot = none)
    (unowned : ∀ slot, S.Free slot) (mine : r.object.Unowned) (uid : String) :
    (S.create r).2.Unreferred uid := by
  intro slot o there ⟨reference, member, _⟩
  rw [Cluster.create_absent absent] at there
  have none : o.Unowned := by
    by_cases same : slot = r.slot
    · have stored := (Cluster.find?_write_self S r.slot _).symm.trans (same ▸ there)
      rw [← Option.some.inj stored]
      exact mine
    · exact unowned slot o ((Cluster.find?_write_of_ne same _).symm.trans there)
  rw [none] at member
  cases member

/-- However often there were passes over the created instance, all without error, a request to
delete it and, if it is still stored, one more pass leave exactly what was there before. -/
structure LeavesNoTrace (settings : Settings) (policy : RetryPolicy) (S : Cluster) (r : Resource) :
    Prop where
  endless : ∀ n, ∃ outcomes c, outcomes.length = n ∧
    Passes settings policy r.slot (S.create r).2 outcomes c
  errorless : ∀ outcomes c, Passes settings policy r.slot (S.create r).2 outcomes c →
    ∀ outcome ∈ outcomes, outcome.error = none
  removed : ∀ outcomes c now, Passes settings policy r.slot (S.create r).2 outcomes c →
    (c.delete now r.slot).2.find? r.slot = none → (c.delete now r.slot).2.inventory = S.inventory
  another : ∀ outcomes c now, Passes settings policy r.slot (S.create r).2 outcomes c →
    ((c.delete now r.slot).2.find? r.slot).isSome →
      ∃ outcome c', Passes settings policy r.slot (c.delete now r.slot).2 [outcome] c'
  cleaned : ∀ outcomes c now outcome c', Passes settings policy r.slot (S.create r).2 outcomes c →
    Passes settings policy r.slot (c.delete now r.slot).2 [outcome] c' →
      outcome.error = none ∧ c'.inventory = S.inventory

theorem arrives_of_create (ordered : S.inventory.Ordered) (absent : S.find? r.slot = none)
    (copy : i.CopyAt r.slot (S.create r).2 stored)
    (vacant : ∀ slot ∈ i.managed settings, S.find? slot = none)
    (unforeseen : ∀ slot ∈ r.slot :: i.managed settings,
      (S.create r).2.Unreferred (Cluster.freshUid slot)) :
    i.Arrives settings S (S.create r).2 stored := by
  have place := copy.place
  have created : (S.create r).2 = (S.insert r).2 := congrArg Prod.snd (Cluster.create_absent absent)
  have found := copy.found
  rw [created] at found
  have same := Option.some.inj ((Cluster.find?_write_self S r.slot _).symm.trans found)
  refine ⟨ordered, place ▸ absent, vacant, place ▸ copy.found, ?_, ?_, ?_, place ▸ unforeseen⟩
  · intro slot different
    rw [created]
    exact Cluster.find?_write_of_ne (place ▸ different) _
  · rw [← same, place]
    rfl
  · rw [copy.metadata]

theorem standing_of_create (arrives : i.Arrives settings S start first)
    (ordered : start.inventory.Ordered) (free : first.metadata.finalizers.getD [] = []) :
    i.Standing settings start first start first := by
  have vacant : ∀ slot ∈ i.managed settings, start.find? slot = none := by
    intro slot member
    rw [arrives.others, arrives.vacant slot member]
    rintro rfl
    exact i.slot_notMem_managed settings member
  refine ⟨⟨ordered, arrives.found, .refl first, fun _ _ _ => rfl, ?_⟩, ?_, Or.inl ⟨free, vacant⟩⟩
  · intro slot member o there
    rw [vacant slot member] at there
    cases there
  · intro step member
    exact Step.not_removes_of_absent (vacant _ (target_mem_managed member))

/-- Creating, reconciling and deleting an instance leaves no trace on a store that held nothing of
it, if it has a name and no finalizers of its own, and if a scanner is stored in no other namespace
than the one it works in. -/
theorem leaves_no_trace (ordered : S.inventory.Ordered) (absent : S.find? r.slot = none)
    (copy : i.CopyAt r.slot (S.create r).2 stored)
    (vacant : ∀ slot ∈ i.managed settings, S.find? slot = none)
    (unforeseen : ∀ slot ∈ r.slot :: i.managed settings,
      (S.create r).2.Unreferred (Cluster.freshUid slot))
    (free : i.metadata.finalizers.getD [] = []) (fits : FitsStored i.metadata.generation)
    (named : i.metadata.name.isSome) (housed : i.Housed) :
    LeavesNoTrace settings policy S r := by
  have arrives := arrives_of_create ordered absent copy vacant unforeseen
  have start : i.Standing settings (S.create r).2 stored (S.create r).2 stored :=
    standing_of_create arrives (Cluster.ordered_carryOut ordered ⟨0, 0⟩ (.create r))
      (copy.metadata ▸ free)
  have standing {outcomes : List Outcome} {c : Cluster}
      (passes : Passes settings policy r.slot (S.create r).2 outcomes c) :=
    start.passes arrives copy housed named fits passes
  refine ⟨?_, fun _ _ passes => (standing passes).1, ?_, ?_, ?_⟩
  · intro n
    induction n with
    | zero => exact ⟨[], _, rfl, .none _⟩
    | succ n ih =>
      obtain ⟨outcomes, c, length, passes⟩ := ih
      obtain ⟨_, o, there⟩ := standing passes
      obtain ⟨j, copy'⟩ := copy.exists_later (copy.place ▸ there.found) there.persists
      obtain ⟨outcome, c', last⟩ := copy'.exists_pass settings policy
      exact ⟨outcomes ++ [outcome], c', by simp [length], passes.append last⟩
  · intro outcomes c now passes gone
    obtain ⟨_, o, there⟩ := standing passes
    rcases there.departs arrives copy now policy with ⟨_, same⟩ | ⟨j, o', copy', _⟩
    · exact same
    · rw [copy'.found] at gone
      cases gone
  · intro outcomes c now passes still
    obtain ⟨_, o, there⟩ := standing passes
    rcases there.departs arrives copy now policy with ⟨gone, _⟩ | ⟨j, o', copy', _⟩
    · rw [gone] at still
      cases still
    · exact copy'.exists_pass settings policy
  · intro outcomes c now outcome c' passes last
    obtain ⟨_, o, there⟩ := standing passes
    rcases there.departs arrives copy now policy with ⟨gone, _⟩ | ⟨j, o', _, cleaned⟩
    · cases last with
      | more copy' =>
        have none := gone.symm.trans copy'.found
        cases none
    · exact cleaned outcome c' last

def foreign : Resource :=
  ⟨.nodeScanner, { metadata := { name := some "inventory", uid := some "4fd2" } }⟩

def withForeign : Cluster := (Cluster.create {} foreign).2

def telemetryManifest : Resource :=
  ⟨.nodeAgent,
    { metadata := { name := some "telemetry", ns := some "observability" }
      data := [("spec", .obj [("credentials", .obj [("enabled", .bool true)])])] }⟩

theorem telemetry_leaves_no_trace : LeavesNoTrace {} {} withForeign telemetryManifest := by
  have only (slot : Slot) (o : Object) (there : withForeign.find? slot = some o) :
      slot.kind = .nodeScanner ∧ o.Unowned := by
    by_cases same : slot = foreign.slot
    · have stored := (Cluster.find?_write_self {} foreign.slot _).symm.trans (same ▸ there)
      rw [same, ← Option.some.inj stored]
      exact ⟨rfl, rfl⟩
    · have nothing := (Cluster.find?_write_of_ne same _).symm.trans there
      cases nothing
  have vacant {slot : Slot} (kind : slot.kind ≠ .nodeScanner) : withForeign.find? slot = none :=
    Option.eq_none_iff_forall_ne_some.mpr fun o there => kind (only slot o there).1
  have absent : withForeign.find? telemetryManifest.slot = none := vacant (by decide)
  refine leaves_no_trace (Cluster.ordered_write (c := {}) List.Pairwise.nil _ _) absent
    (copy_of_create (.agent { credentials := true }) absent rfl rfl rfl)
    (fun slot member => vacant (kind_of_managed member).2)
    (fun slot _ => unreferred_of_unowned absent (fun slot o there => (only slot o there).2) rfl _)
    rfl ?_ rfl (by simp [Housed, asCreated])
  intro generation same
  cases same
  decide

theorem exists_unreferred_step {spec : AgentSpec} (agent : i.spec = .agent spec)
    (anonymous : (Owner.ofInstance i).reference = none) (live : i.metadata.isDeleting = false)
    (settings : Settings) : ∃ (s : ApplyStep) (rest : List Step),
      i.steps settings = .apply s :: rest ∧ s.desired? = none := by
  have shares : (Owner.ofInstance i).sharesScope (some (Blueprint.ofInstance i settings).ns) =
      true := sharesScope_of_housed (by simp [Housed, agent]) settings
  exact ⟨_, _, by simp only [Instance.steps, live, applySteps, agent]; rfl,
    ApplyStep.desired?_eq_none_iff.mpr ⟨shares, anonymous⟩⟩

theorem stopped_of_anonymous {spec : AgentSpec} (agent : i.spec = .agent spec)
    (anonymous : (Owner.ofInstance i).reference = none) (live : i.metadata.isDeleting = false)
    {body : List Event} {results : List StepResult}
    (ran : Pass.Ran ((i.steps settings).map Step.run) body results) :
    body = [] ∧ ∃ error, results = [.fail .stop error] := by
  obtain ⟨s, rest, steps, missing⟩ := exists_unreferred_step agent anonymous live settings
  rw [steps, List.map_cons] at ran
  have failed {own : List Event} {result : StepResult}
      (run : (Step.apply s).run.Runs own result) : own = [] ∧
        result = .fail .stop (.ownerReference s.owner.ident s.resource.ident) := by
    rcases ApplyStep.runs_iff.mp run with ⟨_, failed⟩ | ⟨r, _, desired, _⟩
    · exact failed
    · rw [missing] at desired
      cases desired
  cases ran with
  | proceeded applied proceeds =>
    rw [(failed applied).2] at proceeds
    cases proceeds
  | ended applied => exact ⟨(failed applied).1, _, by rw [(failed applied).2]⟩

theorem error_of_nameless {spec : AgentSpec} (agent : i.spec = .agent spec)
    (nameless : i.metadata.name = none) (live : i.metadata.isDeleting = false)
    (run : (i.pass settings policy).Runs events outcome) : outcome.error ≠ none := by
  have anonymous : (Owner.ofInstance i).reference = none := by simp [Owner.ofInstance, nameless]
  rcases pass_results run with ⟨deleting, _⟩ | ⟨body, status, results, written, _, ran, _, rfl⟩
  · rw [live] at deleting
    cases deleting
  · obtain ⟨_, error, rfl⟩ := stopped_of_anonymous agent anonymous live ran
    cases written <;> simp [conclude, Pass.conclude, Pass.lastError, StepResult.fail]

theorem find?_of_cleanup (deleting : i.metadata.isDeleting = true) (free : c.Free slot)
    (apart : slot.kind ≠ i.kind) (uncleaned : ¬ i.Cleans settings slot)
    (run : (i.pass settings policy).Runs events outcome) (obeys : c.Obeys events c') :
    c'.find? slot = c.find? slot := by
  refine obeys.serves.find?_eq free ?_
  intro call answer called writes
  rcases own_of_write run called writes with ⟨step, inOwn, within⟩ | kind
  · have cleaning : i.ownSteps settings = i.cleanupSteps settings := if_pos deleting
    rw [cleaning] at inOwn
    obtain ⟨resource, rfl⟩ := cases_of_cleanup inOwn
    exact uncleaned ⟨_, inOwn, List.mem_singleton.mp within⟩
  · exact apart kind

theorem exists_unowned {a : ApplyStep} (ordered : S.inventory.Ordered)
    (absent : S.find? r.slot = none) (copy : i.CopyAt r.slot (S.create r).2 stored)
    (vacant : ∀ slot ∈ i.managed settings, S.find? slot = none)
    (live : i.metadata.isDeleting = false) (identified : (Owner.ofInstance i).reference.isSome)
    (fits : FitsStored i.metadata.generation) (member : .apply a ∈ i.applySteps settings)
    (foreign : ¬ a.owner.sharesScope a.resource.object.metadata.ns = true) :
    ∃ outcome c o x, Passes settings policy r.slot (S.create r).2 [outcome] c ∧
      c.find? r.slot = some o ∧ stored.Persists o ∧ o.metadata.isDeleting = false ∧
      c.find? a.resource.slot = some x ∧ x.Unowned := by
  have never : ∀ step ∈ i.applySteps settings, ¬ step.Removes (S.create r).2 := by
    intro step inSteps
    refine Step.not_removes_of_absent ?_
    rw [Cluster.create_absent absent, ← vacant _ (target_mem_managed inSteps)]
    refine Cluster.find?_write_of_ne ?_ _
    rw [← copy.place]
    exact (slot_ne_target inSteps).symm
  obtain ⟨events, outcome, c, run, obeys⟩ :=
    Cluster.Obeys.exists_run (S.create r).2 (i.pass settings policy)
  obtain ⟨_, there, after⟩ := converged_of_pass
    (Cluster.ordered_carryOut ordered ⟨0, 0⟩ (.create r)) copy live identified fits
    (alone_of_stays never) run obeys
  obtain ⟨o, home⟩ := Option.isSome_iff_exists.mp (there never)
  obtain ⟨persists, converged⟩ := after o home
  have done := converged.done _ member
  obtain ⟨x, present⟩ : ∃ x, c.find? a.resource.slot = some x := by
    obtain ⟨r', x, desired, present, _⟩ := done
    exact ⟨x, ApplyStep.slot_of_desired desired ▸ present⟩
  have owners := owners_of_done (brings_of_apply member).2.1.1 done present
  rw [if_neg foreign] at owners
  exact ⟨outcome, c, o, x, .more copy run obeys (.none c), home, persists, converged.live, present,
    owners⟩

theorem leaves_trace_of_uncovered {a : ApplyStep} (ordered : S.inventory.Ordered)
    (absent : S.find? r.slot = none) (copy : i.CopyAt r.slot (S.create r).2 stored)
    (vacant : ∀ slot ∈ i.managed settings, S.find? slot = none)
    (live : i.metadata.isDeleting = false) (identified : (Owner.ofInstance i).reference.isSome)
    (fits : FitsStored i.metadata.generation) (member : .apply a ∈ i.applySteps settings)
    (uncovered : ¬ i.Covers settings (.apply a)) : ¬ LeavesNoTrace settings policy S r := by
  intro traceless
  obtain ⟨foreign, uncleaned⟩ := not_or.mp uncovered
  have managed := target_mem_managed member
  obtain ⟨outcome, c, o, x, passes, home, persists, alive, present, unowned⟩ :=
    exists_unowned ordered absent copy vacant live identified fits member foreign
  have apart : a.resource.slot ≠ r.slot := copy.place ▸ (slot_ne_target member).symm
  have kept : (c.delete ⟨0, 0⟩ r.slot).2.find? a.resource.slot = some x :=
    (Cluster.find?_delete_of_ne apart (.of_found present unowned)).trans present
  have lost {d : Cluster} (same : d.inventory = S.inventory)
      (still : d.find? a.resource.slot = some x) : False := by
    unfold Cluster.find? at still
    rw [same] at still
    have none := (vacant _ managed).symm.trans still
    cases none
  by_cases bare : o.metadata.finalizers.getD [] = []
  · refine lost (traceless.removed [outcome] c ⟨0, 0⟩ passes ?_) kept
    rw [Cluster.delete_free _ home bare]
    exact Cluster.find?_remove_self c r.slot
  · have marked := Cluster.find?_write_self c r.slot (o.withMetadata fun m =>
      { m with deletionTimestamp := some ⟨0, 0⟩ })
    rw [← Cluster.delete_marks ⟨0, 0⟩ home bare alive] at marked
    obtain ⟨outcome', c', last⟩ :=
      traceless.another [outcome] c ⟨0, 0⟩ passes (by rw [marked]; rfl)
    refine lost (traceless.cleaned [outcome] c ⟨0, 0⟩ outcome' c' passes last).2 ?_
    cases last with
    | @more _ _ _ j _ _ _ _ copy' run obeys later =>
      cases later
      obtain rfl := Option.some.inj (marked.symm.trans copy'.found)
      have kin : i.Kin j := copy.kin copy' (persists.trans ⟨rfl, rfl, rfl, rfl, rfl, rfl⟩)
      have deleting : j.metadata.isDeleting = true := by rw [copy'.metadata]; rfl
      have kind : a.resource.slot.kind ≠ j.kind := kin.kind_eq ▸ kind_ne_own managed
      have unclean : ¬ j.Cleans settings a.resource.slot := by
        unfold Cleans
        rw [kin.cleanupSteps_eq]
        exact uncleaned
      rw [find?_of_cleanup deleting (.of_found kept unowned) kind unclean run obeys, kept]

def anonymous : Resource :=
  ⟨.nodeAgent, { metadata := { ns := some "observability" }, data := [("spec", .obj [])] }⟩

/-- A scanner that is stored in another namespace than the one it works in. -/
def stray : Resource :=
  ⟨.nodeScanner,
    { metadata := { name := some "cis", ns := some "audit" }
      data := [("spec", .obj [("namespace", .str "scanning")])] }⟩

theorem anonymous_and_stray_leave_traces :
    (∃ (i : Instance) (o : Object), i.CopyAt anonymous.slot (Cluster.create {} anonymous).2 o ∧
      i.metadata.finalizers = none) ∧
    ¬ LeavesNoTrace {} {} {} anonymous ∧
    (∃ (i : Instance) (o : Object), i.CopyAt stray.slot (Cluster.create {} stray).2 o ∧
      i.metadata.finalizers = none) ∧
    ¬ LeavesNoTrace {} {} {} stray := by
  have nameless := copy_of_create (S := {}) (r := anonymous) (.agent {}) rfl rfl rfl rfl
  have outside := copy_of_create (S := {}) (r := stray) (.scanner { ns := "scanning" })
    rfl rfl rfl rfl
  refine ⟨⟨_, _, nameless, rfl⟩, ?_, ⟨_, _, outside, rfl⟩, ?_⟩
  · intro traceless
    obtain ⟨events, outcome, c, run, obeys⟩ := Cluster.Obeys.exists_run
      (Cluster.create {} anonymous).2 ((asCreated {} anonymous (.agent {})).pass {} {})
    have fine := traceless.errorless [outcome] c (.more nameless run obeys (.none c)) outcome
      (List.mem_singleton_self outcome)
    exact error_of_nameless rfl rfl rfl run fine
  · let i := asCreated {} stray (.scanner { ns := "scanning" })
    let account : ApplyStep :=
      { owner := .ofInstance i
        resource := (Manifest.serviceAccount (.ofInstance i {})).resource
        onError := .stop }
    refine leaves_trace_of_uncovered (a := account) List.Pairwise.nil rfl outside
      (fun _ _ => rfl) rfl rfl ?_ ?_ ?_
    · intro generation same
      cases same
      decide
    · simp [applySteps, applyStep, asCreated, account, i]
    · rintro (shares | ⟨step, within, same⟩)
      · cases shares
      · simp only [cleanupSteps, asCreated, List.mem_cons, List.not_mem_nil, or_false] at within
        rcases within with rfl | rfl | rfl
        all_goals cases congrArg Slot.kind same

end Instance
end AgentOperator
