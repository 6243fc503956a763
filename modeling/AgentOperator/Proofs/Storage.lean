import AgentOperator.Cluster
import AgentOperator.Proofs.Trace

/-!
What a cluster keeps at one slot while calls are made. A write changes its own slot only; a removal
also takes what is owned, so a slot whose object nobody owns is left alone by every call on another
slot.
-/
namespace AgentOperator

def Object.Unowned (object : Object) : Prop :=
  object.metadata.ownerReferences.getD [] = []

@[simp] theorem Object.metadata_withStatus (object : Object) (status : Option Json) :
    (object.withStatus status).metadata = object.metadata := by
  cases status <;> rfl

/-- Nobody owns the object and nothing holds it. -/
def Object.Plain (object : Object) : Prop :=
  object.Unowned ∧ object.metadata.finalizers.getD [] = []

namespace Inventory
variable {inv : Inventory} {slot other : Slot} {p : Slot × Object → Bool}

theorem find?_filter_of_keep (keep : ∀ o, inv.find? slot = some o → p (slot, o) = true) :
    Inventory.find? (inv.filter p) slot = inv.find? slot := by
  induction inv with
  | nil => rfl
  | cons entry rest ih =>
    obtain ⟨s, o⟩ := entry
    by_cases same : slot = s
    · subst same
      have kept : p (slot, o) = true := keep o (by simp)
      rw [List.filter_cons_of_pos kept, find?_cons, find?_cons, if_pos rfl, if_pos rfl]
    · have restKeep : ∀ o, find? rest slot = some o → p (slot, o) = true := by
        intro o' found
        exact keep o' (by simp [same, found])
      cases head : p (s, o) with
      | true =>
        rw [List.filter_cons_of_pos head, find?_cons, find?_cons, if_neg same, if_neg same]
        exact ih restKeep
      | false =>
        rw [List.filter_cons_of_neg (by simp [head]), find?_cons, if_neg same]
        exact ih restKeep

theorem find?_erase_self (inv : Inventory) (slot : Slot) : (inv.erase slot).find? slot = none := by
  induction inv with
  | nil => rfl
  | cons entry rest ih =>
    obtain ⟨s, o⟩ := entry
    unfold erase at ih ⊢
    by_cases same : s = slot
    · rw [List.filter_cons_of_neg (by simp [same])]
      exact ih
    · rw [List.filter_cons_of_pos (by simp [same]), find?_cons, if_neg (Ne.symm same)]
      exact ih

theorem find?_erase_of_ne (different : other ≠ slot) :
    (inv.erase slot).find? other = inv.find? other :=
  find?_filter_of_keep fun _ _ => by simp [different]

theorem ownedBy_eq_false {o : Object} (unowned : o.Unowned) (uids : List String) :
    ownedBy uids o = false := by
  unfold Object.Unowned at unowned
  simp [ownedBy, unowned]

theorem find?_collectRounds (rounds : Nat) (uids : List String)
    (unowned : ∀ o, inv.find? slot = some o → o.Unowned) :
    (collectRounds rounds uids inv).find? slot = inv.find? slot := by
  induction rounds generalizing uids inv with
  | zero => rfl
  | succ rounds ih =>
    have kept : Inventory.find? (inv.filter fun entry => !ownedBy uids entry.2) slot =
        inv.find? slot :=
      find?_filter_of_keep fun o found => by simp [ownedBy_eq_false (unowned o found)]
    have rest : (inv.partition fun entry => ownedBy uids entry.2).2 =
        inv.filter fun entry => !ownedBy uids entry.2 := by
      rw [List.partition_eq_filter_filter]
      rfl
    rw [collectRounds]
    dsimp only
    rw [rest]
    split
    · exact kept
    · -- what a round keeps is owned by nobody in the next one either
      rw [ih, kept]
      intro o found
      rw [kept] at found
      exact unowned o found

theorem find?_remove_self (inv : Inventory) (slot : Slot) :
    (inv.remove slot).find? slot = none := by
  unfold remove
  split
  · next absent => exact absent
  · next object found =>
    rw [collect, find?_collectRounds, find?_erase_self]
    intro o present
    rw [find?_erase_self] at present
    cases present

theorem find?_remove_of_ne (different : other ≠ slot)
    (unowned : ∀ o, inv.find? other = some o → o.Unowned) :
    (inv.remove slot).find? other = inv.find? other := by
  unfold remove
  split
  · rfl
  · next object found =>
    rw [collect, find?_collectRounds, find?_erase_of_ne different]
    intro o present
    rw [find?_erase_of_ne different] at present
    exact unowned o present

end Inventory

/-- The call can change what is kept there; reading and requesting a token change nothing. -/
def Call.writes (c : Call) (slot : Slot) : Prop :=
  c.slot = slot ∧ c.verb ≠ .get ∧ c.verb ≠ .requestToken

theorem Call.writes_of_create {r : Resource} {slot : Slot} (there : r.slot = slot) :
    Call.writes (.create r) slot := ⟨there, by simp [Call.verb], by simp [Call.verb]⟩

theorem Call.writes_of_apply {r : Resource} {manager : String} {force : Bool} {slot : Slot}
    (there : r.slot = slot) : Call.writes (.apply r manager force) slot :=
  ⟨there, by simp [Call.verb], by simp [Call.verb]⟩

theorem Call.writes_of_delete (slot : Slot) : Call.writes (.delete slot) slot :=
  ⟨rfl, by simp [Call.verb], by simp [Call.verb]⟩

def Event.Succeeds : Event → Prop
  | .call _ (.ok _) => True
  | _ => False

def Event.Applies (e : Event) (slot : Slot) : Prop :=
  ∃ r manager force o, e = .call (.apply r manager force) (.ok o) ∧ r.slot = slot

def Call.AppliesPlain (c : Call) : Prop :=
  ∃ r manager force, c = .apply r manager force ∧ r.object.Plain

namespace Cluster

/-- The same objects under the same version; only the count of tokens and the rules for failures
may differ. -/
structure Alike (b c : Cluster) : Prop where
  inventory : b.inventory = c.inventory
  version : b.version = c.version
  revives : b.revives = c.revives

theorem Alike.refl (c : Cluster) : c.Alike c := ⟨rfl, rfl, rfl⟩

theorem Alike.trans {b c d : Cluster} (first : b.Alike c) (second : c.Alike d) : b.Alike d :=
  ⟨first.inventory.trans second.inventory, first.version.trans second.version,
    first.revives.trans second.revives⟩

theorem Alike.find? {b c : Cluster} (alike : b.Alike c) (slot : Slot) :
    b.find? slot = c.find? slot := by
  unfold Cluster.find?
  rw [alike.inventory]

/-- Each call is carried out or fails with any error, and then changes no object. -/
inductive Serves : Cluster → List Event → Cluster → Prop where
  | done (c : Cluster) : Serves c [] c
  | served {b c d c' : Cluster} {call : Call} {answer : call.Answer} {rest : List Event}
      (alike : b.Alike c) (now : Timestamp) (carried : b.carryOut now call = (answer, d))
      (later : Serves d rest c') : Serves c (.call call answer :: rest) c'
  | skipped {b c c' : Cluster} {e : Event} {rest : List Event} (alike : b.Alike c)
      (idle : ¬ e.Succeeds) (later : Serves b rest c') : Serves c (e :: rest) c'

variable {c c' c'' : Cluster} {slot other : Slot} {now : Timestamp}

def Free (c : Cluster) (slot : Slot) : Prop := ∀ o, c.find? slot = some o → o.Unowned

def PlainAt (c : Cluster) (slot : Slot) : Prop := ∀ o, c.find? slot = some o → o.Plain

theorem Free.of_found {o : Object} (found : c.find? slot = some o) (unowned : o.Unowned) :
    c.Free slot := by
  intro o' found'
  rw [found] at found'
  cases found'
  exact unowned

theorem Free.congr (free : c.Free slot) (same : c'.find? slot = c.find? slot) : c'.Free slot :=
  fun o found => free o (same ▸ found)

theorem PlainAt.free (plain : c.PlainAt slot) : c.Free slot := fun o found => (plain o found).1

theorem PlainAt.congr (plain : c.PlainAt slot) (same : c'.find? slot = c.find? slot) :
    c'.PlainAt slot := fun o found => plain o (same ▸ found)

theorem PlainAt.of_absent (absent : c.find? slot = none) : c.PlainAt slot := by
  intro o found
  rw [absent] at found
  cases found

theorem PlainAt.of_found {o : Object} (found : c.find? slot = some o) (plain : o.Plain) :
    c.PlainAt slot := by
  intro o' found'
  rw [found] at found'
  cases found'
  exact plain

theorem find?_write (c : Cluster) (slot other : Slot) (object : Object) :
    (c.write slot object).2.find? other =
      if other = slot then some (stamp object (c.version + 1)) else c.find? other :=
  Inventory.find?_put _ _ _ _

theorem find?_write_self (c : Cluster) (slot : Slot) (object : Object) :
    (c.write slot object).2.find? slot = some (stamp object (c.version + 1)) := by
  rw [find?_write, if_pos rfl]

theorem find?_write_of_ne (different : other ≠ slot) (object : Object) :
    (c.write slot object).2.find? other = c.find? other := by
  rw [find?_write, if_neg different]

theorem find?_remove_self (c : Cluster) (slot : Slot) : (c.remove slot).find? slot = none :=
  Inventory.find?_remove_self _ _

theorem find?_remove_of_ne (different : other ≠ slot) (free : c.Free other) :
    (c.remove slot).find? other = c.find? other :=
  Inventory.find?_remove_of_ne different free

theorem find?_delete_of_ne (different : other ≠ slot) (free : c.Free other) :
    (c.delete now slot).2.find? other = c.find? other := by
  unfold delete
  split
  · rfl
  · split
    · exact find?_remove_of_ne different free
    · split
      · rfl
      · exact find?_write_of_ne different _

theorem find?_replace_of_ne {r : Resource} (different : other ≠ r.slot) (free : c.Free other) :
    (c.replace r).2.find? other = c.find? other := by
  unfold replace
  split
  · rfl
  · next stored _ =>
    dsimp only
    split
    · rw [find?_remove_of_ne different]
      · exact find?_write_of_ne different _
      · intro o found
        rw [find?_write_of_ne different] at found
        exact free o found
    · exact find?_write_of_ne different _

theorem find?_carryOut_of_not_writes (now : Timestamp) {call : Call} (free : c.Free slot)
    (other : ¬ call.writes slot) : (c.carryOut now call).2.find? slot = c.find? slot := by
  cases call with
  | get s => rfl
  | requestToken account request => rfl
  | create r =>
    have different : slot ≠ r.slot := fun same => other ⟨same.symm, by simp [Call.verb]⟩
    show (c.create r).2.find? slot = _
    unfold create
    split
    · rfl
    · exact find?_write_of_ne different _
  | replace r =>
    have different : slot ≠ r.slot := fun same => other ⟨same.symm, by simp [Call.verb]⟩
    exact find?_replace_of_ne different free
  | replaceStatus r =>
    have different : slot ≠ r.slot := fun same => other ⟨same.symm, by simp [Call.verb]⟩
    show (c.replaceStatus r).2.find? slot = _
    unfold replaceStatus
    split
    · rfl
    · exact find?_write_of_ne different _
  | delete s =>
    have different : slot ≠ s := fun same => other ⟨same.symm, by simp [Call.verb]⟩
    exact find?_delete_of_ne different free
  | apply r manager force =>
    have different : slot ≠ r.slot := fun same => other ⟨same.symm, by simp [Call.verb]⟩
    show (c.apply r).2.find? slot = _
    unfold apply
    split
    · exact find?_write_of_ne different _
    · exact find?_write_of_ne different _

theorem apply_ok (c : Cluster) (r : Resource) : ∃ o c', c.apply r = (.ok o, c') := by
  unfold apply
  split
  · exact ⟨_, _, rfl⟩
  · exact ⟨_, _, rfl⟩

theorem apply_plain {r : Resource} (desired : r.object.Plain) (plain : c.PlainAt r.slot) :
    ∃ o, (c.apply r).1 = .ok o ∧ (c.apply r).2.find? r.slot = some o ∧ o.Plain := by
  unfold apply
  split
  · refine ⟨_, rfl, ?_, desired⟩
    show (c.write _ _).2.find? _ = _
    rw [find?_write, if_pos rfl]
    rfl
  · next stored found =>
    refine ⟨_, rfl, ?_, ?_, (plain stored found).2⟩
    · show (c.write _ _).2.find? _ = _
      rw [find?_write, if_pos rfl]
      rfl
    · simpa [Object.Unowned, write, stamp, merged, keepOwn, Object.withMetadata] using desired.1

theorem delete_absent (now : Timestamp) (absent : c.find? slot = none) :
    c.delete now slot = (.error (notFound slot), c) := by
  simp [delete, absent]

theorem delete_free {stored : Object} (now : Timestamp) (found : c.find? slot = some stored)
    (free : stored.metadata.finalizers.getD [] = []) :
    c.delete now slot = (.ok (), c.remove slot) := by
  simp [delete, found, free]

theorem find?_delete_held {stored : Object} (now : Timestamp) (found : c.find? slot = some stored)
    (held : stored.metadata.finalizers.getD [] ≠ []) :
    ∃ o, (c.delete now slot).2.find? slot = some o ∧ o.metadata.isDeleting = true ∧
      o.metadata.key = stored.metadata.key ∧
      o.metadata.ownerReferences = stored.metadata.ownerReferences ∧
      o.metadata.finalizers = stored.metadata.finalizers ∧ o.data = stored.data := by
  unfold delete
  rw [found]
  dsimp only
  rw [if_neg (by simpa using held)]
  split
  · next deleting => exact ⟨stored, found, deleting, rfl, rfl, rfl, rfl⟩
  · refine ⟨_, find?_write_self c slot _, rfl, rfl, rfl, rfl, rfl⟩

theorem delete_plain (now : Timestamp) (plain : c.PlainAt slot) :
    (c.find? slot = none ∧ c.delete now slot = (.error (notFound slot), c)) ∨
      ((c.find? slot).isSome ∧ c.delete now slot = (.ok (), c.remove slot)) := by
  cases found : c.find? slot with
  | none => exact Or.inl ⟨rfl, delete_absent now found⟩
  | some stored => exact Or.inr ⟨rfl, delete_free now found (plain stored found).2⟩

namespace Serves
variable {first last events : List Event}

theorem split (serves : Serves c (first ++ last) c'') :
    ∃ c', Serves c first c' ∧ Serves c' last c'' := by
  induction first generalizing c with
  | nil => exact ⟨c, .done c, serves⟩
  | cons e first ih =>
    cases serves with
    | served alike now carried later =>
      obtain ⟨c', head, tail⟩ := ih later
      exact ⟨c', .served alike now carried head, tail⟩
    | skipped alike idle later =>
      obtain ⟨c', head, tail⟩ := ih later
      exact ⟨c', .skipped alike idle head, tail⟩

theorem keeps {P : Cluster → Prop} {sort : Call → Prop}
    (objects : ∀ b c, Alike b c → P c → P b)
    (step : ∀ c now call, sort call → P c → P (c.carryOut now call).2)
    (serves : Serves c events c')
    (only : ∀ call answer, Event.call call answer ∈ events → sort call) (start : P c) : P c' := by
  induction serves with
  | done c => exact start
  | @served b c d c' call answer rest alike now carried later ih =>
    have kept := step b now call (only call answer List.mem_cons_self) (objects b c alike start)
    rw [carried] at kept
    exact ih (fun call answer member => only call answer (List.mem_cons_of_mem _ member)) kept
  | @skipped b c c' e rest alike idle later ih =>
    exact ih (fun call answer member => only call answer (List.mem_cons_of_mem _ member))
      (objects b c alike start)

theorem find?_eq (free : c.Free slot) (serves : Serves c events c')
    (others : ∀ call answer, Event.call call answer ∈ events → ¬ call.writes slot) :
    c'.find? slot = c.find? slot := by
  refine serves.keeps (P := fun d => d.find? slot = c.find? slot)
    (fun b d alike same => (alike.find? slot).trans same) ?_ others rfl
  intro d now call other same
  rw [find?_carryOut_of_not_writes now (free.congr same) other, same]

theorem isSome_iff_of_applies (serves : Serves c events c') (plain : c.PlainAt slot)
    (applies : ∀ call answer, Event.call call answer ∈ events → call.writes slot →
      call.AppliesPlain) :
    c'.PlainAt slot ∧
      ((c'.find? slot).isSome ↔ (c.find? slot).isSome ∨ ∃ e ∈ events, e.Applies slot) := by
  induction serves with
  | done c => exact ⟨plain, by simp⟩
  | @served b c d c' call answer rest alike now carried later ih =>
    have plainThere := plain.congr (alike.find? slot)
    have later' := fun call answer member => applies call answer (List.mem_cons_of_mem _ member)
    rw [← alike.find? slot]
    by_cases writes : call.writes slot
    · obtain ⟨r, manager, force, rfl, desired⟩ := applies call answer List.mem_cons_self writes
      obtain rfl : r.slot = slot := writes.1
      obtain ⟨o, answered, found, isPlain⟩ := apply_plain desired plainThere
      have done : b.apply r = (answer, d) := carried
      rw [done] at answered found
      obtain rfl : answer = .ok o := answered
      obtain ⟨plainLast, iff⟩ := ih (.of_found found isPlain) later'
      have applied : Event.Applies (.call (.apply r manager force) (.ok o)) r.slot :=
        ⟨r, manager, force, o, rfl, rfl⟩
      exact ⟨plainLast, by simp [iff, found, applied]⟩
    · have same := find?_carryOut_of_not_writes now plainThere.free writes
      rw [carried] at same
      obtain ⟨plainLast, iff⟩ := ih (plainThere.congr same) later'
      have other : ¬ Event.Applies (.call call answer) slot := by
        rintro ⟨r, manager, force, o, equal, there⟩
        cases equal
        exact writes ⟨there, by simp [Call.verb]⟩
      exact ⟨plainLast, by simp [iff, same, other]⟩
  | @skipped b c c' e rest alike idle later ih =>
    obtain ⟨plainLast, iff⟩ := ih (plain.congr (alike.find? slot)) fun call answer member =>
      applies call answer (List.mem_cons_of_mem _ member)
    have other : ¬ e.Applies slot := by
      rintro ⟨r, manager, force, o, rfl, _⟩
      exact idle trivial
    rw [← alike.find? slot]
    exact ⟨plainLast, by simp [iff, other]⟩

theorem isSome_iff_of_deletes (serves : Serves c events c') (plain : c.PlainAt slot)
    (deletes : ∀ call answer, Event.call call answer ∈ events → call.writes slot →
      call = .delete slot) :
    c'.PlainAt slot ∧
      ((c'.find? slot).isSome ↔
        (c.find? slot).isSome ∧ .call (.delete slot) (.ok ()) ∉ events) := by
  induction serves with
  | done c => exact ⟨plain, by simp⟩
  | @served b c d c' call answer rest alike now carried later ih =>
    have plainThere := plain.congr (alike.find? slot)
    have later' := fun call answer member => deletes call answer (List.mem_cons_of_mem _ member)
    rw [← alike.find? slot]
    by_cases writes : call.writes slot
    · obtain rfl := deletes call answer List.mem_cons_self writes
      have done : b.delete now slot = (answer, d) := carried
      rcases delete_plain now plainThere with ⟨absent, failed⟩ | ⟨present, removed⟩
      · rw [failed] at done
        cases done
        obtain ⟨plainLast, iff⟩ := ih plainThere later'
        exact ⟨plainLast, by simp [iff, absent]⟩
      · rw [removed] at done
        cases done
        have absent := b.find?_remove_self slot
        obtain ⟨plainLast, iff⟩ := ih (.of_absent absent) later'
        exact ⟨plainLast, by simp [iff, absent]⟩
    · have same := find?_carryOut_of_not_writes now plainThere.free writes
      rw [carried] at same
      obtain ⟨plainLast, iff⟩ := ih (plainThere.congr same) later'
      have other : Event.call (.delete slot) (.ok ()) ≠ .call call answer := by
        intro equal
        cases equal
        exact writes ⟨rfl, by simp [Call.verb]⟩
      exact ⟨plainLast, by simp [iff, same, other]⟩
  | @skipped b c c' e rest alike idle later ih =>
    obtain ⟨plainLast, iff⟩ := ih (plain.congr (alike.find? slot)) fun call answer member =>
      deletes call answer (List.mem_cons_of_mem _ member)
    have other : Event.call (.delete slot) (.ok ()) ≠ e := by
      rintro rfl
      exact idle trivial
    rw [← alike.find? slot]
    exact ⟨plainLast, by simp [iff, other]⟩

end Serves
end Cluster
end AgentOperator
