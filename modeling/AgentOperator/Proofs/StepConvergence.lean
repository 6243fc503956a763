import AgentOperator.Proofs.PassEffect
import AgentOperator.Proofs.RolloutVersion
import AgentOperator.Proofs.StepChange

/-!
When a step has nothing left to do. An object is applied in vain if it is stored as applying it
would leave it, a namespace is there or not, a credential that is wanted is kept while it is good,
and one that is not wanted is gone or already going. A step that has nothing to do changes no more
than versions, and one that was carried out leaves itself nothing to do.
-/
namespace AgentOperator

theorem Object.status?_withStatus_eq (o : Object) (status : Option Json) :
    (o.withStatus status).status? = status := by
  cases status with
  | none =>
    show (Fields.erase o.data "status").get? "status" = none
    rw [Fields.get?_erase, if_pos rfl]
  | some status => exact o.status?_withStatus status

namespace Object
variable {o o' : Object}

theorem data_of_unversioned (same : o.unversioned = o'.unversioned) : o.data = o'.data := by
  have parts := congrArg Object.data same
  exact parts

theorem key_of_unversioned (same : o.unversioned = o'.unversioned) :
    o.metadata.key = o'.metadata.key := by
  have parts := congrArg Object.key same
  exact parts

theorem persists_of_unversioned (same : o'.unversioned = o.unversioned) : o.Persists o' := by
  have parts := congrArg Object.metadata same
  have name := congrArg Metadata.name parts
  have ns := congrArg Metadata.ns parts
  have uid := congrArg Metadata.uid parts
  have generation := congrArg Metadata.generation parts
  have owners := congrArg Metadata.ownerReferences parts
  exact ⟨name, ns, uid, generation, owners, by rw [data_of_unversioned same]⟩

theorem metadata_of_unversioned (same : o.unversioned = o'.unversioned) :
    o.metadata.uid = o'.metadata.uid ∧ o.metadata.generation = o'.metadata.generation ∧
      o.metadata.deletionTimestamp = o'.metadata.deletionTimestamp ∧
      o.metadata.finalizers = o'.metadata.finalizers ∧
      o.metadata.ownerReferences = o'.metadata.ownerReferences := by
  have parts := congrArg Object.metadata same
  have uid := congrArg Metadata.uid parts
  have generation := congrArg Metadata.generation parts
  have deletion := congrArg Metadata.deletionTimestamp parts
  have finalizers := congrArg Metadata.finalizers parts
  have owners := congrArg Metadata.ownerReferences parts
  exact ⟨uid, generation, deletion, finalizers, owners⟩

end Object

namespace Cluster
variable {b c d : Cluster} {slot : Slot} {stored other given : Object} {r : Resource}

theorem merged_stamp_merged (c : Cluster) (stored given : Object) (version : Nat) :
    c.merged (stamp (c.merged stored given) version) given = c.merged stored given := by
  have status : (stamp (c.merged stored given) version).status? = stored.status? :=
    given.status?_withStatus_eq stored.status?
  unfold merged at status ⊢
  unfold keepOwn at status ⊢
  rw [status]
  cases c.revives <;> rfl

theorem merged_stamp_fresh (c : Cluster) (stateless : r.object.status? = none) (version : Nat) :
    c.merged (stamp (fresh r) version) r.object = fresh r := by
  have status : (stamp (fresh r) version).status? = none := stateless
  have kept : r.object.withStatus none = r.object := by
    show ({ r.object with data := r.object.data.erase "status" } : Object) = _
    rw [Fields.erase_of_absent stateless]
  unfold merged keepOwn
  rw [status, kept]
  cases c.revives <;> rfl

theorem merged_congr (rule : b.revives = c.revives)
    (same : stored.unversioned = other.unversioned) (given : Object) :
    b.merged stored given = c.merged other given := by
  have status : stored.status? = other.status? := by
    unfold Object.status?
    rw [Object.data_of_unversioned same]
  obtain ⟨uid, generation, deletion, finalizers, _⟩ := Object.metadata_of_unversioned same
  unfold merged keepOwn
  rw [rule, status, uid, generation, deletion, finalizers]

/-- The same objects but for their versions, and applied to in the same way. -/
structure SameObjects (b c : Cluster) : Prop where
  find? : ∀ slot, (b.find? slot).map Object.unversioned = (c.find? slot).map Object.unversioned
  revives : b.revives = c.revives

theorem SameObjects.refl (c : Cluster) : c.SameObjects c := ⟨fun _ => rfl, rfl⟩

theorem SameObjects.symm (same : b.SameObjects c) : c.SameObjects b :=
  ⟨fun slot => (same.find? slot).symm, same.revives.symm⟩

theorem SameObjects.trans (first : b.SameObjects c) (second : c.SameObjects d) :
    b.SameObjects d :=
  ⟨fun slot => (first.find? slot).trans (second.find? slot), first.revives.trans second.revives⟩

theorem Alike.sameObjects (alike : b.Alike c) : b.SameObjects c :=
  ⟨fun slot => congrArg (Option.map Object.unversioned) (alike.find? slot), alike.revives⟩

theorem SameObjects.exists_found (same : b.SameObjects c) (found : c.find? slot = some stored) :
    ∃ o, b.find? slot = some o ∧ o.unversioned = stored.unversioned := by
  have there := same.find? slot
  rw [found] at there
  obtain ⟨o, found', equal⟩ := Option.map_eq_some_iff.mp there
  exact ⟨o, found', equal⟩

/-- Nothing is left to be deleted there: what is still there is held and already going. -/
def Spent (c : Cluster) (slot : Slot) : Prop :=
  ∀ o, c.find? slot = some o → o.metadata.finalizers.getD [] ≠ [] ∧ o.metadata.isDeleting = true

theorem spent_of_delete (c : Cluster) (now : Timestamp) (slot : Slot) :
    (c.delete now slot).2.Spent slot := by
  intro o left
  cases found : c.find? slot with
  | none =>
    rw [delete_absent now found, found] at left
    cases left
  | some stored =>
    by_cases free : stored.metadata.finalizers.getD [] = []
    · rw [delete_free now found free, find?_remove_self] at left
      cases left
    · obtain ⟨o', there, going, _, _, finalizers, _⟩ := find?_delete_held now found free
      rw [there] at left
      rw [← Option.some.inj left, finalizers]
      exact ⟨free, going⟩

theorem delete_of_spent (now : Timestamp) (spent : c.Spent slot) : (c.delete now slot).2 = c := by
  cases found : c.find? slot with
  | none => rw [delete_absent now found]
  | some stored =>
    obtain ⟨held, going⟩ := spent stored found
    unfold delete
    rw [found]
    dsimp only
    rw [if_neg (by simpa using held), if_pos going]

end Cluster

/-- The secret records when it expires, and the buffer before that has not begun. -/
def CredentialStep.Good (s : CredentialStep) (secret : Object) (now : Timestamp) : Prop :=
  ∃ expiresAt, Expiry.recorded secret.metadata.annotations = .ok expiresAt ∧
    ¬ expiresAt.shift (-(reach s.expiryBuffer)) ≤ now

theorem CredentialStep.needsRotation_eq_false_iff {s : CredentialStep} {secret : Object}
    {now : Timestamp} : s.needsRotation secret now = false ↔ s.Good secret now := by
  unfold needsRotation Good
  cases Expiry.recorded secret.metadata.annotations with
  | error reason => simp
  | ok expiresAt => simp

namespace Step
variable {step : Step} {b c c' : Cluster} {events : List Event} {result : StepResult}

def Done (c : Cluster) : Step → Prop
  | .apply s => ∃ r stored, s.desired? = some r ∧ c.find? r.slot = some stored ∧
      (Cluster.stamp (c.merged stored r.object) 0).unversioned = stored.unversioned
  | .delete s => c.Spent s.resource.slot
  | .provision s => (c.find? s.resource.slot).isSome
  | .credential s =>
    (s.enabled = true → (c.find? s.accountSlot).isSome ∧ (c.find? s.secretSlot).isSome) ∧
      (s.enabled = false → c.Spent s.secretSlot)
  | .marker s => ∃ stored, c.find? s.slot = some stored ∧ s.amended? stored = none

/-- A credential that is kept is good at every moment that the step looks at the clock. -/
def Fresh (c : Cluster) (events : List Event) : Step → Prop
  | .credential s => s.enabled = true → ∀ secret, c.find? s.secretSlot = some secret →
      ∀ moment, .clock moment ∈ events → s.Good secret moment.wall
  | _ => True

theorem Done.congr (done : step.Done c) (rule : b.revives = c.revives) (same : ∀ slot ∈ step.slots,
    (b.find? slot).map Object.unversioned = (c.find? slot).map Object.unversioned) :
    step.Done b := by
  have isSome {slot : Slot} (within : slot ∈ step.slots) (there : (c.find? slot).isSome) :
      (b.find? slot).isSome := by
    have kept := congrArg Option.isSome (same slot within)
    rwa [Option.isSome_map, Option.isSome_map, there] at kept
  have spent {slot : Slot} (within : slot ∈ step.slots) (spent : c.Spent slot) :
      b.Spent slot := by
    intro o found
    have kept := same slot within
    rw [found] at kept
    obtain ⟨stored, there, equal⟩ := Option.map_eq_some_iff.mp kept.symm
    obtain ⟨_, _, deletion, finalizers, _⟩ := Object.metadata_of_unversioned equal
    obtain ⟨held, going⟩ := spent stored there
    unfold Metadata.isDeleting at going ⊢
    rw [finalizers] at held
    rw [deletion] at going
    exact ⟨held, going⟩
  cases step with
  | apply s =>
    obtain ⟨r, stored, desired, found, settled⟩ := done
    have kept := same r.slot (by simp [slots, ApplyStep.slot_of_desired desired])
    rw [found] at kept
    obtain ⟨o, there, equal⟩ := Option.map_eq_some_iff.mp kept
    refine ⟨r, o, desired, there, ?_⟩
    rw [Cluster.merged_congr rule equal, equal]
    exact settled
  | delete s => exact spent (by simp [slots]) done
  | provision s => exact isSome (by simp [slots]) done
  | credential s =>
    refine ⟨?_, ?_⟩
    · intro wanted
      obtain ⟨account, secret⟩ := done.1 wanted
      exact ⟨isSome (by simp [slots]) account, isSome (by simp [slots]) secret⟩
    · intro unwanted
      exact spent (by simp [slots]) (done.2 unwanted)
  | marker s =>
    obtain ⟨stored, found, steady⟩ := done
    have kept := same s.slot (by simp [slots])
    rw [found] at kept
    obtain ⟨o, there, equal⟩ := Option.map_eq_some_iff.mp kept
    refine ⟨o, there, ?_⟩
    obtain ⟨_, _, deletion, finalizers, _⟩ := Object.metadata_of_unversioned equal
    unfold MarkerStep.amended? MarkerTransition.of Metadata.hasMarker Metadata.isDeleting
      at steady ⊢
    rw [finalizers, deletion]
    split at steady
    · rfl
    · cases steady
    · cases steady

end Step

/-- The event writes nothing but by applying and deleting, and requests no token. -/
def Event.Quiet (e : Event) : Prop :=
  e.verb? ≠ some .create ∧ e.verb? ≠ some .replace ∧ e.verb? ≠ some .replaceStatus ∧
    e.verb? ≠ some .requestToken

theorem Event.quiet_of_read {e : Event} (reads : e.verb? = none ∨ e.verb? = some .get) :
    e.Quiet := by
  unfold Event.Quiet
  rcases reads with verb | verb <;> simp [verb]

namespace Step
variable {step : Step} {c c' : Cluster} {events : List Event} {result : StepResult}

theorem still_of_spent {slot : Slot} {now : Timestamp} {answer : Except StoreError Unit}
    (spent : c.Spent slot) (effect : c'.Alike (c.delete now slot).2)
    (same : events = [.call (.delete slot) answer]) :
    (∀ e ∈ events, e.Quiet) ∧ c'.SameObjects c := by
  rw [Cluster.delete_of_spent now spent] at effect
  refine ⟨?_, effect.sameObjects⟩
  intro e member
  rw [same, List.mem_singleton] at member
  rw [member]
  simp [Event.Quiet, Event.verb?, Call.verb]

theorem still (done : step.Done c) (fresh : step.Fresh c events) (ready : step.Ready c)
    (run : step.run.Runs events result) (obeys : c.Obeys events c') :
    result = .ok ∧ (∀ e ∈ events, e.Quiet) ∧ c'.SameObjects c := by
  cases step with
  | apply s =>
    obtain ⟨r, stored, desired, found, settled⟩ := done
    obtain ⟨fine, effect, answer, rfl⟩ := ApplyStep.effect desired run obeys
    refine ⟨fine, ?_, effect.sameObjects.trans ?_⟩
    · intro e member
      rw [List.mem_singleton.mp member]
      simp [Event.Quiet, Event.verb?, Call.verb]
    · refine ⟨fun slot => ?_, c.revives_apply r⟩
      rw [Cluster.find?_apply]
      split
      · next here =>
        rw [here, found, Cluster.applied_of_found found]
        exact congrArg some settled
      · rfl
  | delete s =>
    obtain ⟨fine, now, effect, answer, same⟩ := DeleteStep.effect run obeys
    exact ⟨fine, still_of_spent done effect same⟩
  | provision s =>
    obtain ⟨o, found⟩ := Option.isSome_iff_exists.mp done
    obtain ⟨fine, effect, rfl⟩ := ProvisionStep.effect_of_present found run obeys
    refine ⟨fine, ?_, effect.sameObjects⟩
    intro e member
    rw [List.mem_singleton.mp member]
    exact Event.quiet_of_read (Or.inr rfl)
  | credential s =>
    cases wanted : s.enabled with
    | true =>
      obtain ⟨account, secret⟩ := done.1 wanted
      obtain ⟨o, found⟩ := Option.isSome_iff_exists.mp secret
      obtain ⟨fine, kept | issued⟩ :=
        CredentialStep.effect_of_wanted wanted account (ready wanted).2 run obeys
      · obtain ⟨_, _, effect, reads⟩ := kept
        exact ⟨fine, fun e member => Event.quiet_of_read (reads e member), effect.sameObjects⟩
      · obtain ⟨moment, looked, due⟩ := issued.1 o found
        have good := fresh wanted o found moment looked
        rw [CredentialStep.needsRotation_eq_false_iff.mpr good] at due
        cases due
    | false =>
      obtain ⟨fine, now, effect, answer, same⟩ := CredentialStep.effect_of_dropped wanted run obeys
      exact ⟨fine, still_of_spent (done.2 wanted) effect same⟩
  | marker s => exact ready.elim

theorem Makes.done {owner : Owner} (makes : step.Makes c c') (brings : step.Brings owner) :
    step.Done c' := by
  cases makes with
  | @applies s r desired effect =>
    have stateless : r.object.status? = none :=
      (ApplyStep.status?_of_desired desired).trans brings.2.2
    refine ⟨r, Cluster.stamp (c.applied r) (c.version + 1), desired, ?_, ?_⟩
    · rw [effect.find?, Cluster.find?_apply, if_pos rfl]
    · rw [Cluster.merged_of_revives (effect.revives.trans (c.revives_apply r))]
      cases found : c.find? r.slot with
      | none => rw [Cluster.applied_of_absent found, Cluster.merged_stamp_fresh c stateless]; rfl
      | some stored => rw [Cluster.applied_of_found found, Cluster.merged_stamp_merged]; rfl
  | deletes now effect => exact brings.elim
  | stands present effect =>
    show (c'.find? _).isSome
    rw [effect.find?]
    exact present
  | @provides s absent effect =>
    show (c'.find? s.resource.slot).isSome
    rw [effect.find?]
    exact Option.isSome_iff_exists.mpr ⟨_, Cluster.find?_write_self c s.resource.slot _⟩
  | @drops s unwanted now effect =>
    refine ⟨by simp [unwanted], fun _ => ?_⟩
    intro o left
    rw [effect.find?] at left
    exact Cluster.spent_of_delete c now s.secretSlot o left
  | @keeps s wanted account present effect =>
    refine ⟨fun _ => ?_, by simp [wanted]⟩
    rw [effect.find?, effect.find?]
    exact ⟨account, present⟩
  | @issues s credential r wanted account desired effect =>
    refine ⟨fun _ => ?_, by simp [wanted]⟩
    have apart : s.accountSlot ≠ r.slot := by
      rw [slot_of_issued desired]
      intro same
      cases congrArg Slot.kind same
    rw [effect.find?, effect.find?, Cluster.find?_apply_of_ne apart, ← slot_of_issued desired,
      Cluster.find?_apply, if_pos rfl]
    exact ⟨account, rfl⟩

end Step
end AgentOperator
