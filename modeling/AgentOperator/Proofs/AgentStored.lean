import AgentOperator.Proofs.AgentPass

/-!
What becomes of the stored agent in a pass over it. Status writes change nothing but its status and
version, and the steps before the marker do not touch it. The marker's write keeps a live agent; it
lets an agent go that is being deleted and that no other finalizer holds.
-/
namespace AgentOperator

def Object.lasting (o : Object) : Metadata := { o.metadata with resourceVersion := none }

namespace Cluster
variable {c c' d : Cluster} {slot : Slot} {given stored : Object} {events rest : List Event}

theorem find?_of_current (current : c.current slot given = .ok stored) :
    c.find? slot = some stored := by
  unfold Cluster.current at current
  split at current
  · cases current
  · next kept found =>
    split at current
    · cases current
      exact found
    · cases current

theorem current_of_find? (found : c.find? slot = some stored)
    (version : stored.metadata.resourceVersion = given.metadata.resourceVersion) :
    c.current slot given = .ok stored := by
  simp [Cluster.current, found, version]

theorem lasting_replaceStatus (c : Cluster) (r : Resource) (slot : Slot) :
    ((c.replaceStatus r).2.find? slot).map Object.lasting =
      (c.find? slot).map Object.lasting := by
  unfold replaceStatus
  split
  · rfl
  · next stored current =>
    show ((c.write _ _).2.find? slot).map Object.lasting = _
    rw [find?_write]
    split
    · next same =>
      rw [same, find?_of_current current]
      simp [Object.lasting, stamp, Object.withMetadata]
    · rfl

theorem Serves.lasting_of_status {w : StatusWriter} (serves : Serves c events c')
    (only : ∀ call answer, Event.call call answer ∈ events → w.mayCall call) (slot : Slot) :
    (c'.find? slot).map Object.lasting = (c.find? slot).map Object.lasting := by
  refine serves.keeps (P := fun d => (d.find? slot).map Object.lasting =
    (c.find? slot).map Object.lasting) ?_ ?_ only rfl
  · intro b d alike same
    rw [alike.find? slot, same]
  intro d now call may same
  rcases may with ⟨s, rfl⟩ | ⟨object, rfl⟩
  · exact same
  · rw [← same]
    exact lasting_replaceStatus d _ slot

theorem Serves.of_get {answer : Except StoreError Object}
    (serves : Serves c (.call (.get slot) answer :: rest) c') :
    ∃ b : Cluster, b.Alike c ∧ Serves b rest c' ∧
      ∀ o, answer = .ok o → c.find? slot = some o := by
  cases serves with
  | @served b _ _ _ _ _ _ alike now carried later =>
    have read : (b.get slot, b) = (answer, _) := carried
    obtain ⟨rfl, rfl⟩ := Prod.mk.inj read
    refine ⟨b, alike, later, ?_⟩
    intro o found
    rw [← alike.find? slot]
    unfold Cluster.get at found
    split at found
    · next kept present => rw [present, Except.ok.inj found]
    · cases found
  | skipped alike idle later =>
    refine ⟨_, alike, later, ?_⟩
    rintro o rfl
    exact absurd trivial idle

theorem Serves.of_replace {r : Resource} {answer : Except StoreError Object}
    (serves : Serves c (.call (.replace r) answer :: rest) c') :
    ∃ b d : Cluster, b.Alike c ∧ Serves d rest c' ∧ (d = b ∨ d = (b.replace r).2) := by
  cases serves with
  | served alike now carried later =>
    exact ⟨_, _, alike, later, Or.inr (congrArg Prod.snd carried).symm⟩
  | skipped alike idle later => exact ⟨_, _, alike, later, Or.inl rfl⟩

theorem find?_replace_self {r : Resource} (found : c.find? r.slot = some stored)
    (version : stored.metadata.resourceVersion = r.object.metadata.resourceVersion) :
    ∃ o, (c.replace r).2.find? r.slot = (if isReleased o then none else some o) ∧
      o.metadata.key = r.object.metadata.key ∧
      o.metadata.ownerReferences = r.object.metadata.ownerReferences ∧
      o.metadata.finalizers = r.object.metadata.finalizers ∧
      o.metadata.isDeleting = stored.metadata.isDeleting := by
  unfold replace
  rw [current_of_find? found version]
  refine ⟨stamp (keepOwn stored r.object) (c.version + 1), ?_, ?_, ?_, ?_, rfl⟩
  · show Cluster.find? (if isReleased (stamp _ _) then (c.write _ _).2.remove _
      else (c.write _ _).2) _ = _
    split
    · exact find?_remove_self _ _
    · rw [find?_write, if_pos rfl]
  · simp [stamp, keepOwn, Object.withMetadata, Metadata.key]
  · simp [stamp, keepOwn, Object.withMetadata]
  · simp [stamp, keepOwn, Object.withMetadata]

end Cluster

namespace MarkerStep
variable {s : MarkerStep} {c c' b : Cluster} {events : List Event} {result : StepResult}
  {current changed stored : Object}

theorem frame_of_amended (amended : s.amended? current = some changed) :
    changed.metadata.key = current.metadata.key ∧
      changed.metadata.ownerReferences = current.metadata.ownerReferences ∧
      changed.metadata.resourceVersion = current.metadata.resourceVersion := by
  obtain ⟨finalizers, _, rfl⟩ := rewrites_of_amended amended
  exact ⟨rfl, rfl, rfl⟩

def Rewritten (s : MarkerStep) (stored : Object) (c : Cluster) : Prop :=
  ∃ changed o, s.amended? stored = some changed ∧
    c.find? s.slot = (if Cluster.isReleased o then none else some o) ∧
    o.metadata.key = stored.metadata.key ∧
    o.metadata.ownerReferences = stored.metadata.ownerReferences ∧
    o.metadata.finalizers = changed.metadata.finalizers ∧
    o.metadata.isDeleting = stored.metadata.isDeleting

theorem rewritten_of_replace (found : b.find? s.slot = some stored)
    (key : stored.metadata.key = s.key) (amended : s.amended? stored = some changed) :
    s.Rewritten stored (b.replace ⟨s.kind, changed⟩).2 := by
  obtain ⟨sameKey, sameOwners, version⟩ := frame_of_amended amended
  have there : Resource.slot ⟨s.kind, changed⟩ = s.slot := by
    show (⟨s.kind, changed.metadata.key⟩ : Slot) = ⟨s.kind, s.key⟩
    rw [sameKey, key]
  obtain ⟨o, kept, keptKey, keptOwners, finalizers, deletion⟩ :=
    Cluster.find?_replace_self (r := ⟨s.kind, changed⟩) (there ▸ found) version.symm
  rw [there] at kept
  exact ⟨changed, o, amended, kept, keptKey.trans sameKey, keptOwners.trans sameOwners, finalizers,
    deletion⟩

theorem kept_or_rewritten (found : c.find? s.slot = some stored)
    (key : stored.metadata.key = s.key) (run : s.run.Runs events result)
    (serves : c.Serves events c') : c'.find? s.slot = some stored ∨ s.Rewritten stored c' := by
  rcases runs_cases run with
    ⟨error, rfl⟩ | ⟨current, rfl, _⟩ | ⟨current, changed, answer, amended, rfl, _⟩
  · obtain ⟨b, alike, later, _⟩ := serves.of_get
    cases later
    exact Or.inl ((alike.find? s.slot).trans found)
  · obtain ⟨b, alike, later, _⟩ := serves.of_get
    cases later
    exact Or.inl ((alike.find? s.slot).trans found)
  · obtain ⟨b, alike, later, read⟩ := serves.of_get
    obtain ⟨b', d, alike', last, same | replaced⟩ := later.of_replace
    · cases last
      rw [same]
      exact Or.inl ((alike'.find? s.slot).trans ((alike.find? s.slot).trans found))
    · cases last
      have isStored := read current rfl
      rw [found] at isStored
      obtain rfl := Option.some.inj isStored
      rw [replaced]
      refine Or.inr (rewritten_of_replace ?_ key amended)
      rw [alike'.find? s.slot, alike.find? s.slot, found]

end MarkerStep

namespace AgentId
variable {a : AgentId} {i : Instance} {settings : Settings} {policy : RetryPolicy}
  {c c' : Cluster} {events : List Event} {outcome : Outcome} {o o' stored : Object}

/-- The agent as it should be stored: at its place, owned by nobody, and held by a finalizer while
it is being deleted. -/
structure Sound (a : AgentId) (o : Object) : Prop where
  key : o.metadata.key = a.slot.key
  unowned : o.Unowned
  held : o.metadata.isDeleting = true → o.metadata.finalizers.getD [] ≠ []

theorem Sound.congr (sound : a.Sound o) (same : o'.lasting = o.lasting) : a.Sound o' := by
  constructor
  · show o'.lasting.key = _
    rw [same]
    exact sound.key
  · show o'.lasting.ownerReferences.getD [] = []
    rw [same]
    exact sound.unowned
  · show o'.lasting.isDeleting = true → o'.lasting.finalizers.getD [] ≠ []
    rw [same]
    exact sound.held

def Stays (a : AgentId) (stored : Object) (c : Cluster) : Prop :=
  ∃ o, c.find? a.slot = some o ∧ a.Sound o ∧ o.metadata.isDeleting = stored.metadata.isDeleting

def Goes (a : AgentId) (stored : Object) (c : Cluster) : Prop :=
  c.find? a.slot = none ∧ stored.metadata.isDeleting = true

theorem stays_or_goes_of_lasting {d : Cluster}
    (same : (d.find? a.slot).map Object.lasting = (c.find? a.slot).map Object.lasting) :
    (a.Stays stored c → a.Stays stored d) ∧ (a.Goes stored c → a.Goes stored d) := by
  constructor
  · rintro ⟨o, found, sound, deletion⟩
    rw [found] at same
    obtain ⟨o', found', lasting⟩ := Option.map_eq_some_iff.mp same
    have sameDeletion : o'.lasting.isDeleting = o.lasting.isDeleting := by rw [lasting]
    exact ⟨o', found', sound.congr lasting, sameDeletion.trans deletion⟩
  · rintro ⟨absent, deleting⟩
    rw [absent] at same
    exact ⟨Option.map_eq_none_iff.mp same, deleting⟩

theorem marker_outcome {result : StepResult} (copy : i.markerStep.slot = a.slot)
    (found : c.find? a.slot = some stored) (sound : a.Sound stored)
    (run : i.markerStep.run.Runs events result) (serves : c.Serves events c') :
    a.Stays stored c' ∨ a.Goes stored c' := by
  have key : stored.metadata.key = i.markerStep.key :=
    sound.key.trans (congrArg Slot.key copy).symm
  rcases MarkerStep.kept_or_rewritten (copy ▸ found) key run serves with
    kept | ⟨changed, o, _, kept, sameKey, sameOwners, _, sameDeletion⟩
  · rw [copy] at kept
    exact Or.inl ⟨stored, kept, sound, rfl⟩
  · rw [copy] at kept
    cases released : Cluster.isReleased o with
    | true =>
      right
      rw [released, if_pos rfl] at kept
      have deleting : o.metadata.isDeleting = true := (Bool.and_eq_true_iff.mp released).1
      exact ⟨kept, sameDeletion ▸ deleting⟩
    | false =>
      left
      rw [released, if_neg (by simp)] at kept
      refine ⟨o, kept, ⟨sameKey.trans sound.key, ?_, ?_⟩, sameDeletion⟩
      · rw [Object.Unowned, sameOwners]
        exact sound.unowned
      · intro deleting empty
        simp [Cluster.isReleased, deleting, empty] at released

theorem deleted_of_cleanup (copy : i.markerStep.slot = a.slot)
    (deleting : i.metadata.isDeleting = true)
    (run : (i.ownProgram settings).Runs events outcome) (idle : outcome.schedule = .idle)
    {g : Slot} (member : g ∈ a.guarded) :
    ∃ answer, .call (.delete g) answer ∈ events ∧ Deleted answer := by
  obtain ⟨b, r, steps, isBinding, isRole⟩ := cleanupSteps_of_copy copy settings
  rcases List.mem_cons.mp member with rfl | last
  · have cleaned := Instance.cleaned_of_deleting deleting run idle
      (s := { resource := b, onError := .stop }) (by rw [steps]; exact List.mem_cons_self)
    rw [← isBinding]
    exact cleaned
  · obtain rfl := List.mem_singleton.mp last
    have cleaned := Instance.cleaned_of_deleting deleting run idle
      (s := { resource := r, onError := .stop })
      (by rw [steps]; exact List.mem_cons_of_mem _ List.mem_cons_self)
    rw [← isRole]
    exact cleaned

/-- A pass keeps the agent, or lets it go after both deletions were answered as done. -/
theorem pass_outcome (copy : i.markerStep.slot = a.slot) (found : c.find? a.slot = some stored)
    (sound : a.Sound stored) (given : i.metadata.isDeleting = stored.metadata.isDeleting)
    (run : (i.pass settings policy).Runs events outcome) (serves : c.Serves events c') :
    a.Stays stored c' ∨ a.Goes stored c' ∧
      ∀ g ∈ a.guarded, ∃ answer, .call (.delete g) answer ∈ events ∧ Deleted answer := by
  rcases Instance.pass_parts run with rfl | ⟨own, marker, status, rfl, parts⟩
  · cases serves
    exact Or.inl ⟨stored, found, sound, rfl⟩
  · obtain ⟨c₂, body, writing⟩ := serves.split
    obtain ⟨c₁, steps, marking⟩ := body.split
    have untouched : c₁.find? a.slot = some stored := by
      rw [steps.find?_eq (.of_found found sound.unowned), found]
      intro call answer called
      exact parts.own_of_mem (¬ ·.writes a.slot)
        (fun step member c call => not_writes_slot_of_own copy member call) called
    -- what the marker left is what the status write leaves
    have same := writing.lasting_of_status
      (fun call answer called => parts.status_of_mem called) a.slot
    obtain ⟨reached, ownRun, nothing | ⟨idle, result, markerRun⟩⟩ := parts.own_marker
    · subst nothing
      cases marking
      exact Or.inl ((stays_or_goes_of_lasting same).1 ⟨stored, untouched, sound, rfl⟩)
    · rcases marker_outcome copy untouched sound markerRun marking with stays | goes
      · exact Or.inl ((stays_or_goes_of_lasting same).1 stays)
      · refine Or.inr ⟨(stays_or_goes_of_lasting same).2 goes, ?_⟩
        intro g member
        obtain ⟨answer, called, deleted⟩ :=
          deleted_of_cleanup copy (given.trans goes.2) ownRun idle member
        exact ⟨answer, by simp [called], deleted⟩

end AgentId
end AgentOperator
