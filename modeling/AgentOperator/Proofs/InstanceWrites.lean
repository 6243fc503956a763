import AgentOperator.Proofs.ConditionRoundTrip
import AgentOperator.Proofs.PassEffect

/-!
What the marker and the status write to a live instance. Both leave every other object alone and
what identifies the instance and specifies it. The marker does not look at the instance again once
it is there, nor the status at conditions that it has written itself, as long as the workload is
observed the same.
-/
namespace AgentOperator

namespace Object
variable {o o' : Object}

theorem get?_withStatus {key : String} (different : key ≠ "status") (o : Object)
    (status : Option Json) : (o.withStatus status).data.get? key = o.data.get? key := by
  cases status with
  | none =>
    show (Fields.erase o.data "status").get? key = _
    rw [Fields.get?_erase, if_neg different]
  | some json => exact Fields.get?_insert_of_ne o.data json different

theorem persists_withStatus (o : Object) (status : Option Json) :
    o.Persists (o.withStatus status) := by
  have same := o.metadata_withStatus status
  have spec : (o.withStatus status).data.get? "spec" = o.data.get? "spec" :=
    get?_withStatus (by decide) o status
  constructor
  all_goals first
    | rw [same]
    | exact spec

theorem Persists.stamp (persists : o.Persists o') (version : Nat) :
    o.Persists (Cluster.stamp o' version) :=
  ⟨persists.name, persists.ns, persists.uid, persists.generation, persists.owners, persists.spec⟩

end Object

namespace Cluster
variable {c c' d : Cluster} {slot : Slot} {how : Object → Object → Prop}

/-- Only what is kept there has changed, and is there as it was before. -/
structure Updates (c c' : Cluster) (slot : Slot) (how : Object → Object → Prop) : Prop where
  others : ∀ other, other ≠ slot → c'.find? other = c.find? other
  mine : Option.Rel how (c.find? slot) (c'.find? slot)
  revives : c'.revives = c.revives

theorem Updates.exists_before {o' : Object} (updates : c.Updates c' slot how)
    (there : c'.find? slot = some o') : ∃ o, c.find? slot = some o ∧ how o o' := by
  have related := updates.mine
  rw [there] at related
  cases found : c.find? slot with
  | none =>
    rw [found] at related
    cases related
  | some o =>
    rw [found] at related
    cases related with
    | some related => exact ⟨o, rfl, related⟩

theorem Updates.isSome_eq (updates : c.Updates c' slot how) :
    (c'.find? slot).isSome = (c.find? slot).isSome := by
  have related := updates.mine
  generalize c.find? slot = before at related ⊢
  generalize c'.find? slot = after at related ⊢
  cases related <;> rfl

theorem Alike.updates (alike : c'.Alike c) (same : ∀ o, c.find? slot = some o → how o o) :
    c.Updates c' slot how := by
  refine ⟨fun other _ => alike.find? other, ?_, alike.revives⟩
  rw [alike.find?]
  cases found : c.find? slot with
  | none => exact .none
  | some o => exact .some (same o found)

theorem updates_write {o written : Object} (alike : c'.Alike (c.write slot written).2)
    (found : c.find? slot = some o) (related : how o (stamp written (c.version + 1))) :
    c.Updates c' slot how := by
  refine ⟨?_, ?_, alike.revives⟩
  · intro other different
    rw [alike.find?, find?_write_of_ne different]
  · rw [alike.find?, found, find?_write_self]
    exact .some related

end Cluster

theorem Cluster.metadata_keepOwn_withFinalizers (stored : Object) (finalizers : List String) :
    (keepOwn stored (stored.withFinalizers finalizers)).metadata =
      { stored.metadata with finalizers := some finalizers } := by
  have parts := (stored.withFinalizers finalizers).metadata_withStatus stored.status?
  simp only [keepOwn, Object.withMetadata, parts]
  rfl

namespace MarkerStep
variable {s : MarkerStep} {c c' : Cluster} {events : List Event} {result : StepResult}
  {stored changed : Object}

theorem replace_of_amended (found : c.find? s.slot = some stored)
    (key : stored.metadata.key = s.key) (amended : s.amended? stored = some changed) :
    (c.replace ⟨s.kind, changed⟩).2 =
      if Cluster.isReleased (Cluster.keepOwn stored changed) then
        (c.write s.slot (Cluster.keepOwn stored changed)).2.remove s.slot
      else (c.write s.slot (Cluster.keepOwn stored changed)).2 := by
  obtain ⟨sameKey, _, version⟩ := frame_of_amended amended
  have there : Resource.slot ⟨s.kind, changed⟩ = s.slot := by
    show (⟨s.kind, changed.metadata.key⟩ : Slot) = ⟨s.kind, s.key⟩
    rw [sameKey, key]
  have current : c.current s.slot changed = .ok stored :=
    Cluster.current_of_find? found version.symm
  unfold Cluster.replace
  rw [there, current]
  show (if Cluster.isReleased (Cluster.keepOwn stored changed) then _ else _ : Cluster) = _
  split <;> rfl

theorem keepOwn_of_amended (amended : s.amended? stored = some changed) :
    stored.Persists (Cluster.keepOwn stored changed) ∧
      (Cluster.keepOwn stored changed).metadata.finalizers = changed.metadata.finalizers ∧
      (Cluster.keepOwn stored changed).metadata.deletionTimestamp =
        stored.metadata.deletionTimestamp := by
  obtain ⟨finalizers, _, rfl⟩ := rewrites_of_amended amended
  have kept := Cluster.metadata_keepOwn_withFinalizers stored finalizers
  have spec : ((stored.withFinalizers finalizers).withStatus stored.status?).data.get? "spec" =
      stored.data.get? "spec" := Object.get?_withStatus (by decide) _ _
  refine ⟨⟨?_, ?_, ?_, ?_, ?_, spec⟩, congrArg Metadata.finalizers kept, ?_⟩
  all_goals rw [kept]

structure Marks (s : MarkerStep) (o o' : Object) : Prop where
  persists : o.Persists o'
  live : o'.metadata.isDeleting = false
  steady : s.amended? o' = none
  finalizers : o'.metadata.finalizers = o.metadata.finalizers ∨
    o.metadata.hasMarker s.marker = false ∧
      o'.metadata.finalizers = some (o.metadata.finalizers.getD [] ++ [s.marker])

theorem amended_of_live (live : stored.metadata.isDeleting = false) :
    s.amended? stored = if stored.metadata.hasMarker s.marker then none
      else some (stored.withMetadata (·.addMarker s.marker)) := by
  unfold amended? MarkerTransition.of
  rw [live]
  cases stored.metadata.hasMarker s.marker <;> rfl

theorem Settles.updates (settles : s.Settles c c' events result)
    (key : ∀ stored, c.find? s.slot = some stored → stored.metadata.key = s.key)
    (live : ∀ stored, c.find? s.slot = some stored → stored.metadata.isDeleting = false) :
    c.Updates c' s.slot s.Marks := by
  cases settles with
  | absent absent effect =>
    refine effect.updates ?_
    intro o found
    rw [absent] at found
    cases found
  | @steady stored found steady effect =>
    refine effect.updates ?_
    intro o there
    rw [found] at there
    obtain rfl := Option.some.inj there
    exact ⟨.refl _, live _ found, steady, Or.inl rfl⟩
  | @amended _ stored changed found amended effect =>
    have isLive := live stored found
    obtain ⟨persists, finalizers, deletion⟩ := keepOwn_of_amended amended
    have stays : (Cluster.keepOwn stored changed).metadata.isDeleting = false := by
      unfold Metadata.isDeleting at isLive ⊢
      rw [deletion]
      exact isLive
    rw [replace_of_amended found (key stored found) amended,
      if_neg (by simp [Cluster.isReleased, stays])] at effect
    rw [amended_of_live isLive] at amended
    split at amended
    · cases amended
    · next bare =>
      have added : changed.metadata.finalizers =
          some (stored.metadata.finalizers.getD [] ++ [s.marker]) := by
        rw [← Option.some.inj amended]
        rfl
      refine Cluster.updates_write effect found ⟨persists.stamp _, stays, ?_, Or.inr ⟨?_, ?_⟩⟩
      · have marked : (Cluster.stamp (Cluster.keepOwn stored changed)
            (c.version + 1)).metadata.hasMarker s.marker = true := by
          show (Cluster.keepOwn stored changed).metadata.hasMarker s.marker = true
          unfold Metadata.hasMarker
          rw [finalizers, added]
          simp
        have isLive' : (Cluster.stamp (Cluster.keepOwn stored changed)
            (c.version + 1)).metadata.isDeleting = false := stays
        rw [amended_of_live isLive', if_pos marked]
      · simpa using bare
      · exact finalizers.trans added

end MarkerStep

namespace StatusWriter
variable {w : StatusWriter} {c c' : Cluster} {events : List Event}
  {result : Except StoreError StatusWrite} {stored : Object}

structure Reports (w : StatusWriter) (workload : Except StoreError Object) (o o' : Object) :
    Prop where
  persists : o.Persists o'
  finalizers : o'.metadata.finalizers = o.metadata.finalizers
  deletionTimestamp : o'.metadata.deletionTimestamp = o.metadata.deletionTimestamp
  settled : o'.metadata.isDeleting = false →
    ∀ moment, (w.derived none o' workload moment).2 = false

theorem fits_of_derived {passError : Option String} {workload : Except StoreError Object}
    {moment : Moment} (fits : FitsStored stored.metadata.generation) :
    ∀ condition ∈ (w.derived passError stored workload moment).1,
      FitsStored condition.observedGeneration := by
  obtain ⟨reconciled, available, same, agreesReconciled, agreesAvailable⟩ :=
    Condition.derive_agrees (storedConditions stored) stored.metadata.generation
      (w.observe workload) passError moment.wall.render
  intro condition member
  rw [derived, same] at member
  simp only [List.mem_cons, List.not_mem_nil, or_false] at member
  rcases member with rfl | rfl
  · rw [agreesReconciled.observedGeneration]
    exact fits
  · rw [agreesAvailable.observedGeneration]
    exact fits

theorem Settles.updates (settles : w.Settles none c c' events result)
    (fits : ∀ stored, c.find? w.slot = some stored → FitsStored stored.metadata.generation) :
    c.Updates c' w.slot (w.Reports (c.get ⟨.daemonSet, w.workload⟩)) := by
  cases settles with
  | skipped gone effect =>
    refine effect.updates ?_
    intro o found
    refine ⟨.refl o, rfl, rfl, ?_⟩
    intro live
    rw [gone o found] at live
    cases live
  | @unchanged stored moment found live same effect reads =>
    refine effect.updates ?_
    intro o there
    rw [found] at there
    obtain rfl := Option.some.inj there
    exact ⟨.refl _, rfl, rfl, fun _ later => Condition.derive_unchanged_later same _⟩
  | @written stored moment found live changed effect =>
    let conditions := (w.derived none stored (c.get ⟨.daemonSet, w.workload⟩) moment).1
    let status := some (Instance.encodeStatus conditions)
    have same : (stored.withStatus status).metadata = stored.metadata :=
      stored.metadata_withStatus status
    have finalizers := congrArg Metadata.finalizers same
    have deletion := congrArg Metadata.deletionTimestamp same
    refine Cluster.updates_write effect found
      ⟨(stored.persists_withStatus status).stamp _, finalizers, deletion, ?_⟩
    intro _ later
    have read : storedConditions (stored.withStatus status) = conditions :=
      storedConditions_withStatus stored (fits_of_derived (fits stored found))
    show (Condition.derive (storedConditions (stored.withStatus status))
      (stored.withStatus status).metadata.generation _ none _).2 = false
    rw [read, same]
    exact Condition.derive_derived _ _ _ _ _ _

end StatusWriter
end AgentOperator
