import AgentOperator.Proofs.LivePass

/-!
What the passes over an instance leave on a store that held nothing of it. Whatever its steps store
bears a uid that the store has assigned and is held by nothing, and it goes again: either it refers
to the instance, or it is among what the cleanup deletes. Nothing else has changed but the instance
itself, which bears the marker and nothing more as soon as there is anything to clean up.
-/
namespace AgentOperator

namespace Cluster
variable {c : Cluster} {r : Resource}

def Unreferred (c : Cluster) (uid : String) : Prop :=
  ∀ slot o, c.find? slot = some o → ¬ o.RefersTo uid

theorem applied_owners (c : Cluster) (r : Resource) :
    (c.applied r).metadata.ownerReferences = r.object.metadata.ownerReferences := by
  unfold applied
  cases c.find? r.slot with
  | none => rfl
  | some stored => exact owners_merged c stored r.object

end Cluster

theorem ApplyStep.finalizers_of_desired {s : ApplyStep} {r : Resource}
    (desired : s.desired? = some r) :
    r.object.metadata.finalizers = s.resource.object.metadata.finalizers :=
  sent_as_given (·.object.metadata.finalizers) (fun _ _ => rfl) desired

theorem Step.not_removes_of_done {step : Step} {owner : Owner} {c : Cluster} (done : step.Done c)
    (brings : step.Brings owner) : ¬ step.Removes c := by
  intro removes
  cases step with
  | credential s =>
    obtain ⟨unwanted, o, there, free⟩ := removes
    exact (done.2 unwanted o there).1 free
  | apply s => exact removes
  | provision s => exact removes
  | delete s => exact brings
  | marker s => exact brings

namespace Instance
variable {i j : Instance} {settings : Settings} {policy : RetryPolicy} {c c' start : Cluster}
  {first stored o : Object} {slot : Slot} {step : Step} {events : List Event} {outcome : Outcome}
  {outcomes : List Outcome}

/-- A scanner that is stored in a namespace is stored in the one that it works in. -/
def Housed (i : Instance) : Prop :=
  ∀ spec, i.spec = .scanner spec → i.metadata.ns = none ∨ i.metadata.ns = some spec.ns

theorem sharesScope_of_housed (housed : i.Housed) (settings : Settings) :
    (Owner.ofInstance i).sharesScope (some (Blueprint.ofInstance i settings).ns) = true := by
  refine Owner.sharesScope_iff.mpr ?_
  show i.metadata.ns = none ∨ some (Blueprint.ofInstance i settings).ns = i.metadata.ns
  unfold Blueprint.ofInstance
  cases spec : i.spec with
  | agent agentSpec => cases ns : i.metadata.ns <;> simp [Blueprint.ofAgent, ns]
  | scanner scannerSpec => exact (housed scannerSpec spec).imp_right Eq.symm

def Cleans (i : Instance) (settings : Settings) (slot : Slot) : Prop :=
  ∃ step ∈ i.cleanupSteps settings, slot = step.target

/-- What the step stores refers to its owner, or is among what the cleanup deletes. -/
def Covers (i : Instance) (settings : Settings) : Step → Prop
  | .apply s =>
    s.owner.sharesScope s.resource.object.metadata.ns = true ∨ i.Cleans settings s.resource.slot
  | .provision s => i.Cleans settings s.resource.slot
  | .credential s => s.owner.sharesScope (some s.blueprint.ns) = true
  | .delete _ | .marker _ => True

theorem covers_of_apply (housed : i.Housed) (member : step ∈ i.applySteps settings) :
    i.Covers settings step := by
  have shares := sharesScope_of_housed housed settings
  have cleans (s : Step) (within : s ∈ i.cleanupSteps settings) : i.Cleans settings s.target :=
    ⟨s, within, rfl⟩
  unfold applySteps at member
  cases spec : i.spec with
  | agent agentSpec =>
    simp only [cleanupSteps, spec, List.mem_cons, List.not_mem_nil, or_false] at cleans
    simp only [spec, List.mem_cons, List.not_mem_nil, or_false] at member
    rcases member with rfl | rfl | rfl | rfl | rfl | rfl | rfl
    · exact Or.inl shares
    · exact Or.inr (cleans _ (Or.inr rfl))
    · exact Or.inr (cleans _ (Or.inl rfl))
    · exact Or.inl shares
    · exact Or.inl shares
    · exact Or.inl shares
    · have same : Blueprint.ofInstance i settings = .ofAgent i.metadata agentSpec settings := by
        unfold Blueprint.ofInstance
        rw [spec]
      rw [same] at shares
      exact shares
  | scanner scannerSpec =>
    simp only [cleanupSteps, spec, List.mem_cons, List.not_mem_nil, or_false] at cleans
    simp only [spec, List.mem_cons, List.not_mem_nil, or_false] at member
    rcases member with rfl | rfl | rfl | rfl | rfl | rfl
    · exact cleans _ (Or.inr (Or.inr rfl))
    · exact Or.inl shares
    · exact Or.inr (cleans _ (Or.inr (Or.inl rfl)))
    · exact Or.inr (cleans _ (Or.inl rfl))
    · exact Or.inl shares
    · exact Or.inl shares

/-- What is stored there goes with the instance: nothing holds it, and it is collected with the
instance or deleted before. -/
structure Disposable (i : Instance) (settings : Settings) (slot : Slot) (o : Object) : Prop where
  uid : o.metadata.uid = some (Cluster.freshUid slot)
  free : o.metadata.finalizers.getD [] = []
  goes : (∃ uid, i.metadata.uid = some uid ∧ o.RefersTo uid) ∨ i.Cleans settings slot

def Tidy (i : Instance) (settings : Settings) (c : Cluster) : Prop :=
  ∀ slot ∈ i.managed settings, ∀ o, c.find? slot = some o → i.Disposable settings slot o

theorem Disposable.applied {a : ApplyStep} {r : Resource} (owner : a.owner = .ofInstance i)
    (plain : a.resource.object.Plain) (covers : i.Covers settings (.apply a))
    (desired : a.desired? = some r)
    (before : ∀ o, c.find? r.slot = some o → i.Disposable settings r.slot o) (version : Nat) :
    i.Disposable settings r.slot (Cluster.stamp (c.applied r) version) := by
  refine ⟨?_, ?_, ?_⟩
  · show (c.applied r).metadata.uid = _
    cases found : c.find? r.slot with
    | none => rw [Cluster.applied_of_absent found]; rfl
    | some stored =>
      rw [Cluster.applied_of_found found]
      exact (before stored found).uid
  · show (c.applied r).metadata.finalizers.getD [] = []
    cases found : c.find? r.slot with
    | none =>
      rw [Cluster.applied_of_absent found]
      show r.object.metadata.finalizers.getD [] = []
      rw [ApplyStep.finalizers_of_desired desired]
      exact plain.2
    | some stored =>
      rw [Cluster.applied_of_found found]
      exact (before stored found).free
  · rcases covers with shares | cleans
    · obtain ⟨reference, isReference⟩ : ∃ reference, a.owner.reference = some reference := by
        rcases ApplyStep.cases_of_desired desired with ⟨foreign, _⟩ | ⟨reference, isReference, _⟩
        · rw [foreign] at shares
          cases shares
        · exact ⟨reference, isReference⟩
      rw [owner] at isReference
      have owners : (Cluster.stamp (c.applied r) version).metadata.ownerReferences.getD [] =
          [reference] := by
        show (c.applied r).metadata.ownerReferences.getD [] = _
        rw [Cluster.applied_owners, ApplyStep.owners_of_desired plain.1 desired, if_pos shares,
          owner, isReference]
        rfl
      refine Or.inl ⟨reference.uid, Owner.uid_of_reference isReference, reference, ?_, rfl⟩
      rw [owners]
      exact List.mem_singleton_self reference
    · right
      rw [ApplyStep.slot_of_desired desired]
      exact cleans

theorem Disposable.made (makes : step.Makes c c') (brings : step.Brings (.ofInstance i))
    (covers : i.Covers settings step) (stays : ¬ step.Removes c)
    (before : ∀ o, c.find? step.target = some o → i.Disposable settings step.target o) :
    ∀ o, c'.find? step.target = some o → i.Disposable settings step.target o := by
  intro o there
  have applied {a : ApplyStep} {r : Resource} (same : r.slot = step.target)
      (owner : a.owner = .ofInstance i) (plain : a.resource.object.Plain)
      (covers : i.Covers settings (.apply a)) (desired : a.desired? = some r)
      (effect : c'.Alike (c.apply r).2) : i.Disposable settings step.target o := by
    rw [effect.find?, Cluster.find?_apply, if_pos same.symm] at there
    rw [← same] at before ⊢
    exact Option.some.inj there ▸ .applied owner plain covers desired before _
  cases makes with
  | applies desired effect =>
    exact applied (ApplyStep.slot_of_desired desired) brings.1 brings.2.1 covers desired effect
  | deletes now effect => exact brings.elim
  | stands present effect => exact before o ((effect.find? _).symm.trans there)
  | provides absent effect =>
    rw [effect.find?] at there
    have stored := Option.some.inj (there.symm.trans (Cluster.find?_write_self c _ _))
    rw [stored]
    exact ⟨rfl, brings.2, Or.inr covers⟩
  | @drops s unwanted now effect =>
    have absent : c.find? s.secretSlot = none := by
      refine Option.eq_none_iff_forall_ne_some.mpr ?_
      intro secret found
      exact stays ⟨unwanted, secret, found, (before secret found).free⟩
    rw [effect.find?, Cluster.delete_absent now absent] at there
    exact before o there
  | keeps wanted account present effect => exact before o ((effect.find? _).symm.trans there)
  | @issues s credential r wanted account desired effect =>
    exact applied (a := s.applied credential) (Step.slot_of_issued desired) brings
      (s.plain_applied credential).1 (Or.inl covers) desired effect

theorem Tidy.made (tidy : i.Tidy settings c) (housed : i.Housed)
    (member : step ∈ i.applySteps settings) (makes : step.Makes c c') (stays : ¬ step.Removes c) :
    i.Tidy settings c' := by
  intro slot within o there
  by_cases here : slot = step.target
  · rw [here] at within there ⊢
    exact Disposable.made makes (brings_of_apply member) (covers_of_apply housed member) stays
      (tidy step.target within) o there
  · rw [makes.find?_of_ne stays here] at there
    exact tidy slot within o there

/-- The store as passes over the instance leave it that was first stored as `first`. -/
structure Footprint (i : Instance) (settings : Settings) (start : Cluster) (first : Object)
    (c : Cluster) (stored : Object) : Prop where
  ordered : c.inventory.Ordered
  found : c.find? i.markerStep.slot = some stored
  persists : first.Persists stored
  others : ∀ slot, slot ≠ i.markerStep.slot → slot ∉ i.managed settings →
    c.find? slot = start.find? slot
  tidy : i.Tidy settings c

/-- The instance before its deletion: as long as the marker is missing there is nothing to clean up,
and once it is there no other finalizer is, nor a request to delete it. -/
structure Standing (i : Instance) (settings : Settings) (start : Cluster) (first : Object)
    (c : Cluster) (stored : Object) : Prop extends
    Footprint i settings start first c stored where
  keeps : ∀ step ∈ i.applySteps settings, ¬ step.Removes c
  stage : (stored.metadata.finalizers.getD [] = [] ∧
      ∀ slot ∈ i.managed settings, c.find? slot = none) ∨
    (stored.metadata.finalizers.getD [] = [Conventions.cleanupMarker] ∧
      stored.metadata.isDeleting = false)

theorem Kin.managed_eq (kin : i.Kin j) (settings : Settings) :
    j.managed settings = i.managed settings := by
  unfold managed
  rw [kin.applySteps_eq, kin.cleanupSteps_eq]

theorem Disposable.kin (disposable : i.Disposable settings slot o) (kin : i.Kin j) :
    j.Disposable settings slot o := by
  refine ⟨disposable.uid, disposable.free, ?_⟩
  unfold Cleans
  rw [kin.uid, kin.cleanupSteps_eq]
  exact disposable.goes

theorem Footprint.kin (footprint : i.Footprint settings start first c stored) (kin : i.Kin j) :
    j.Footprint settings start first c stored where
  ordered := footprint.ordered
  found := kin.markerStep_eq ▸ footprint.found
  persists := footprint.persists
  others := by
    rw [kin.markerStep_eq, kin.managed_eq]
    exact footprint.others
  tidy := by
    intro slot member o there
    rw [kin.managed_eq] at member
    exact (footprint.tidy slot member o there).kin kin

theorem Standing.kin (standing : i.Standing settings start first c stored) (kin : i.Kin j) :
    j.Standing settings start first c stored where
  toFootprint := standing.toFootprint.kin kin
  keeps := kin.applySteps_eq settings ▸ standing.keeps
  stage := kin.managed_eq settings ▸ standing.stage

theorem Standing.marked (standing : i.Standing settings start first c stored)
    (mark : i.markerStep.Marks stored o) :
    o.metadata.finalizers.getD [] = [Conventions.cleanupMarker] := by
  rcases mark.finalizers with same | ⟨bare, added⟩
  · have steady := mark.steady
    rw [MarkerStep.amended_of_live mark.live] at steady
    unfold Metadata.hasMarker at steady
    rw [same] at steady ⊢
    rcases standing.stage with ⟨none, _⟩ | ⟨marked, _⟩
    · rw [none] at steady
      cases steady
    · exact marked
  · unfold Metadata.hasMarker at bare
    rcases standing.stage with ⟨none, _⟩ | ⟨marked, _⟩
    · rw [added, none]
      rfl
    · rw [marked] at bare
      simp [markerStep] at bare

theorem Standing.pass_of_live (standing : i.Standing settings start first c stored)
    (copy : i.CopyAt slot c stored) (housed : i.Housed) (live : i.metadata.isDeleting = false)
    (identified : (Owner.ofInstance i).reference.isSome) (fits : FitsStored i.metadata.generation)
    (run : (i.pass settings policy).Runs events outcome) (obeys : c.Obeys events c') :
    outcome.error = none ∧ ∃ o, i.Standing settings start first c' o := by
  have found := standing.found
  have threads : Step.Threads (fun before d => i.Brought c stored before d ∧ i.Tidy settings d)
      (fun _ => True) events (i.applySteps settings) := by
    intro before step after split d d' own result kept own_run own_obeys _
    obtain ⟨brought, tidy⟩ := kept
    have member : step ∈ i.applySteps settings := by simp [split]
    obtain ⟨fine, makes⟩ := brought.run_makes found identified split own_run own_obeys
    have stays : ¬ step.Removes d :=
      fun removes => standing.keeps step member (brought.removes_congr split removes)
    exact ⟨fine, fun _ _ => trivial, brought.extend_of_not_removes found split makes stays,
      tidy.made housed member makes stays⟩
  obtain ⟨fine, c₁, c₂, ⟨brought, tidy⟩, marks, reports⟩ :=
    pass_effect_of_live copy live fits threads ⟨.nil standing.ordered found, standing.tidy⟩
      (fun _ _ kept => kept.1.mine) run obeys
  have home : c₁.find? i.markerStep.slot = some stored := by
    rw [brought.elsewhere standing.keeps _ fun step member => slot_ne_target member, found]
  obtain ⟨o, there⟩ : ∃ o, c'.find? i.markerStep.slot = some o := by
    rw [← Option.isSome_iff_exists, reports.isSome_eq, marks.isSome_eq, home]
    rfl
  obtain ⟨persists, converged⟩ := brought.converged marks reports there
  have elsewhere (other : Slot) (different : other ≠ i.markerStep.slot) :
      c'.find? other = c₁.find? other :=
    (reports.others other different).trans (marks.others other different)
  obtain ⟨o₂, there₂, report⟩ := reports.exists_before there
  obtain ⟨o₁, there₁, mark⟩ := marks.exists_before there₂
  obtain rfl : stored = o₁ := Option.some.inj (home.symm.trans there₁)
  refine ⟨fine, o, ⟨⟨obeys.serves.ordered standing.ordered, there,
    standing.persists.trans persists, ?_, ?_⟩, ?_, ?_⟩⟩
  · intro other different unmanaged
    rw [elsewhere other different, brought.elsewhere standing.keeps other,
      standing.others other different unmanaged]
    rintro step member rfl
    exact unmanaged (target_mem_managed member)
  · intro slot member o there
    rw [elsewhere slot (fun same => i.slot_notMem_managed settings (same ▸ member))] at there
    exact tidy slot member o there
  · intro step member
    exact Step.not_removes_of_done (converged.done step member) (brings_of_apply member)
  · right
    refine ⟨?_, converged.live⟩
    rw [report.finalizers]
    exact standing.marked mark

theorem pass_of_bare (deleting : i.metadata.isDeleting = true)
    (bare : i.metadata.hasMarker Conventions.cleanupMarker = false)
    (run : (i.pass settings policy).Runs events outcome) :
    events = [] ∧ outcome = ⟨.idle, none⟩ := by
  unfold pass at run
  rw [if_pos (by simp [deleting, bare])] at run
  exact Program.runs_pure.mp run

theorem Standing.pass (standing : i.Standing settings start first c stored)
    (copy : i.CopyAt slot c stored) (housed : i.Housed)
    (identified : (Owner.ofInstance i).reference.isSome) (fits : FitsStored i.metadata.generation)
    (run : (i.pass settings policy).Runs events outcome) (obeys : c.Obeys events c') :
    outcome.error = none ∧ ∃ o, i.Standing settings start first c' o := by
  cases live : i.metadata.isDeleting with
  | false => exact standing.pass_of_live copy housed live identified fits run obeys
  | true =>
    -- without the marker the pass does nothing, and with it the instance is not being deleted
    have bare : i.metadata.hasMarker Conventions.cleanupMarker = false := by
      rw [copy.metadata] at live ⊢
      unfold Metadata.hasMarker
      rcases standing.stage with ⟨none, _⟩ | ⟨_, alive⟩
      · rw [none]
        rfl
      · rw [alive] at live
        cases live
    obtain ⟨rfl, rfl⟩ := pass_of_bare live bare run
    obtain rfl := obeys.eq_of_nil
    exact ⟨rfl, stored, standing⟩

end Instance
end AgentOperator
