import AgentOperator.Proofs.InventoryOrder
import Mathlib.Data.List.Sort

/-!
What a removal takes along. Whatever refers to the removed object as an owner goes in the first
round, what refers to that in the next one, and so on; so an object stays that refers to nothing
that can go. In the order of their slots inventories are equal if they hold the same.
-/
namespace AgentOperator

def Object.RefersTo (o : Object) (uid : String) : Prop :=
  ∃ reference ∈ o.metadata.ownerReferences.getD [], reference.uid = uid

namespace Inventory
variable {inv other : Inventory} {slot : Slot} {o : Object} {uids : List String}
  {doomed : String → Prop} {spared : Slot → Prop}

theorem ownedBy_iff : ownedBy uids o = true ↔ ∃ uid ∈ uids, o.RefersTo uid := by
  simp only [ownedBy, List.any_eq_true, List.contains_iff_mem, Object.RefersTo]
  constructor
  · intro owned
    obtain ⟨reference, member, within⟩ := owned
    exact ⟨reference.uid, within, reference, member, rfl⟩
  · intro owned
    obtain ⟨uid, within, reference, member, same⟩ := owned
    exact ⟨reference, member, same ▸ within⟩

theorem Ordered.find?_filter (ordered : inv.Ordered) (p : Slot × Object → Bool) :
    Inventory.find? (inv.filter p) slot = (inv.find? slot).filter fun o => p (slot, o) := by
  have backwards {o' : Object} (kept : Inventory.find? (inv.filter p) slot = some o') :
      inv.find? slot = some o' ∧ p (slot, o') = true :=
    ⟨ordered.find?_of_sublist List.filter_sublist kept, (List.mem_filter.mp (mem_of_find? kept)).2⟩
  cases found : inv.find? slot with
  | none =>
    cases kept : Inventory.find? (inv.filter p) slot with
    | none => rfl
    | some o' =>
      rw [(backwards kept).1] at found
      cases found
  | some o =>
    cases passes : p (slot, o) with
    | true =>
      rw [find?_filter_of_keep, found, Option.filter_some, if_pos passes]
      intro o' found'
      rw [found] at found'
      exact Option.some.inj found' ▸ passes
    | false =>
      rw [Option.filter_some, if_neg (by simp [passes])]
      cases kept : Inventory.find? (inv.filter p) slot with
      | none => rfl
      | some o' =>
        obtain ⟨found', passes'⟩ := backwards kept
        rw [found] at found'
        rw [← Option.some.inj found', passes] at passes'
        cases passes'

/-- A collection can take only what bears a doomed uid, apart from what it leaves anyway, and what
is spared refers to none of these. -/
structure Spares (inv left : Inventory) (doomed : String → Prop) (spared : Slot → Prop) :
    Prop where
  unreferring : ∀ s o, inv.find? s = some o → spared s → ∀ uid, doomed uid → ¬ o.RefersTo uid
  others : ∀ s o, inv.find? s = some o → ¬ spared s →
    (left.find? s).isSome ∨ ∀ uid, o.metadata.uid = some uid → doomed uid

theorem collectRounds_succ (rounds : Nat) (uids : List String) (inv : Inventory) :
    collectRounds (rounds + 1) uids inv =
      if (inv.filter fun entry => ownedBy uids entry.2).isEmpty then
        inv.filter fun entry => !ownedBy uids entry.2
      else collectRounds rounds
        ((inv.filter fun entry => ownedBy uids entry.2).filterMap fun entry => entry.2.metadata.uid)
        (inv.filter fun entry => !ownedBy uids entry.2) := by
  rw [collectRounds, List.partition_eq_filter_filter]
  rfl

theorem Ordered.find?_collectRounds_of_spared {rounds : Nat} (ordered : inv.Ordered)
    (spares : inv.Spares (collectRounds rounds uids inv) doomed spared)
    (within : ∀ uid ∈ uids, doomed uid) (isSpared : spared slot) :
    (collectRounds rounds uids inv).find? slot = inv.find? slot := by
  induction rounds generalizing uids inv with
  | zero => rfl
  | succ rounds ih =>
    have unowned {s : Slot} {o : Object} (found : inv.find? s = some o) (isSpared : spared s) :
        ownedBy uids o = false := by
      rw [← Bool.not_eq_true, ownedBy_iff]
      intro owned
      obtain ⟨uid, member, refers⟩ := owned
      exact spares.unreferring s o found isSpared uid (within uid member) refers
    have kept : Inventory.find? (inv.filter fun entry => !ownedBy uids entry.2) slot =
        inv.find? slot :=
      find?_filter_of_keep fun o found => by simp [unowned found isSpared]
    rw [collectRounds_succ] at spares ⊢
    split at spares
    · next nobody =>
      rw [if_pos nobody]
      exact kept
    · next somebody =>
      have part : (inv.filter fun entry => !ownedBy uids entry.2).Sublist inv :=
        List.filter_sublist
      rw [if_neg somebody, ih (ordered.sublist part) ?_ ?_, kept]
      · refine ⟨?_, ?_⟩
        · intro s o found
          exact spares.unreferring s o (ordered.find?_of_sublist part found)
        · intro s o found
          exact spares.others s o (ordered.find?_of_sublist part found)
      · -- whoever goes in this round bears a doomed uid, as it is neither spared nor left
        intro uid member
        obtain ⟨⟨s, o⟩, orphan, bears⟩ := List.mem_filterMap.mp member
        obtain ⟨inside, owned⟩ := List.mem_filter.mp orphan
        have found := ordered.find?_of_mem inside
        have notSpared : ¬ spared s := by
          intro isSpared
          rw [unowned found isSpared] at owned
          cases owned
        rcases spares.others s o found notSpared with left | doomed
        · obtain ⟨o', there⟩ := Option.isSome_iff_exists.mp left
          have staying :=
            (ordered.sublist part).find?_of_sublist (collectRounds_sublist _ _ _) there
          rw [ordered.find?_filter, found, Option.filter_some, owned] at staying
          cases staying
        · exact doomed uid bears

theorem Ordered.find?_collectRounds_of_owned (ordered : inv.Ordered) (rounds : Nat)
    (found : inv.find? slot = some o) {uid : String} (member : uid ∈ uids)
    (refers : o.RefersTo uid) : (collectRounds (rounds + 1) uids inv).find? slot = none := by
  have part : (inv.filter fun entry => !ownedBy uids entry.2).Sublist inv := List.filter_sublist
  have gone : Inventory.find? (inv.filter fun entry => !ownedBy uids entry.2) slot = none := by
    rw [ordered.find?_filter, found, Option.filter_some, if_neg]
    simpa using ownedBy_iff.mpr ⟨uid, member, refers⟩
  have later : (collectRounds (rounds + 1) uids inv).Sublist
      (inv.filter fun entry => !ownedBy uids entry.2) := by
    rw [collectRounds_succ]
    split
    · exact List.Sublist.refl _
    · exact collectRounds_sublist _ _ _
  cases left : (collectRounds (rounds + 1) uids inv).find? slot with
  | none => rfl
  | some o' =>
    rw [(ordered.sublist part).find?_of_sublist later left] at gone
    cases gone

/-- What refers to something that goes goes as well: every round but the last takes something, so
there are enough of them. -/
theorem Ordered.find?_collectRounds_of_heir {rounds : Nat} {heir : Slot} {h : Object}
    {uid : String} (ordered : inv.Ordered) (enough : inv.length < rounds)
    (was : inv.find? heir = some h) (gone : (collectRounds rounds uids inv).find? heir = none)
    (bears : h.metadata.uid = some uid) (found : inv.find? slot = some o)
    (refers : o.RefersTo uid) : (collectRounds rounds uids inv).find? slot = none := by
  induction rounds generalizing uids inv with
  | zero => cases enough
  | succ rounds ih =>
    have part : (inv.filter fun entry => !ownedBy uids entry.2).Sublist inv := List.filter_sublist
    have kept {s : Slot} {o : Object} (there : inv.find? s = some o)
        (stays : ownedBy uids o = false) :
        Inventory.find? (inv.filter fun entry => !ownedBy uids entry.2) s = some o := by
      rw [ordered.find?_filter, there, Option.filter_some, if_pos (by simp [stays])]
    cases falls : ownedBy uids o with
    | true =>
      obtain ⟨uid, member, refers⟩ := ownedBy_iff.mp falls
      exact ordered.find?_collectRounds_of_owned rounds found member refers
    | false =>
      rw [collectRounds_succ] at gone ⊢
      split at gone
      · next nobody =>
        have isOwned : ownedBy uids h ≠ false := by
          intro stays
          rw [kept was stays] at gone
          cases gone
        have member : (heir, h) ∈ inv.filter fun entry => ownedBy uids entry.2 :=
          List.mem_filter.mpr ⟨mem_of_find? was, by simpa using isOwned⟩
        rw [List.isEmpty_iff.mp nobody] at member
        cases member
      · next somebody =>
        rw [if_neg somebody]
        obtain ⟨orphan, orphaned⟩ := List.exists_mem_of_ne_nil _ (mt List.isEmpty_iff.mpr somebody)
        obtain ⟨inside, isOwned⟩ := List.mem_filter.mp orphaned
        have fewer : (inv.filter fun entry => !ownedBy uids entry.2).length < inv.length :=
          List.length_filter_lt_length_iff_exists.mpr ⟨orphan, inside, by simp [isOwned]⟩
        cases goes : ownedBy uids h with
        | true =>
          obtain ⟨rest, rfl⟩ := Nat.exists_eq_succ_of_ne_zero (show rounds ≠ 0 by omega)
          refine (ordered.sublist part).find?_collectRounds_of_owned rest (kept found falls) ?_
            refers
          exact List.mem_filterMap.mpr
            ⟨(heir, h), List.mem_filter.mpr ⟨mem_of_find? was, goes⟩, bears⟩
        | false =>
          exact ih (ordered.sublist part) (by omega) (kept was goes) gone (kept found falls)

theorem remove_of_found (found : inv.find? slot = some o) :
    inv.remove slot = collect o.metadata.uid.toList (inv.erase slot) := by
  simp [remove, found]

theorem Ordered.erase (ordered : inv.Ordered) (slot : Slot) : (inv.erase slot).Ordered :=
  ordered.sublist List.filter_sublist

theorem Ordered.mem_iff (ordered : inv.Ordered) {entry : Slot × Object} :
    entry ∈ inv ↔ inv.find? entry.1 = some entry.2 :=
  ⟨ordered.find?_of_mem, mem_of_find?⟩

theorem Ordered.ext (first : inv.Ordered) (second : other.Ordered)
    (same : ∀ slot, inv.find? slot = other.find? slot) : inv = other := by
  have irrefl : Std.Irrefl fun a b : Slot × Object => (a.1.before b.1 : Prop) :=
    ⟨fun a => Slot.not_before_self a.1⟩
  have antisymm : Std.Antisymm fun a b : Slot × Object => (a.1.before b.1 : Prop) :=
    ⟨fun a b before after => absurd (Slot.before_trans before after) (Slot.not_before_self a.1)⟩
  refine List.Pairwise.eq_of_mem_iff first second fun entry => ?_
  rw [first.mem_iff, second.mem_iff, same]

end Inventory

namespace Cluster
variable {c : Cluster} {slot other : Slot} {o : Object} {uid : String}

theorem delete_held {stored : Object} (now : Timestamp) (found : c.find? slot = some stored)
    (held : stored.metadata.finalizers.getD [] ≠ []) :
    (c.delete now slot).2 = c ∨ ∃ marked, (c.delete now slot).2 = (c.write slot marked).2 := by
  unfold delete
  rw [found]
  dsimp only
  rw [if_neg (by simpa using held)]
  split
  · exact Or.inl rfl
  · exact Or.inr ⟨_, rfl⟩

theorem find?_remove_of_spared (doomed : String → Prop) (spared : Slot → Prop)
    (ordered : c.inventory.Ordered) (found : c.find? slot = some o) (different : other ≠ slot)
    (isSpared : spared other)
    (uids : ∀ uid, o.metadata.uid = some uid → doomed uid)
    (spares : (c.inventory.erase slot).Spares (c.remove slot).inventory doomed spared) :
    (c.remove slot).find? other = c.find? other := by
  have removed : (c.remove slot).inventory =
      Inventory.collect o.metadata.uid.toList (c.inventory.erase slot) :=
    Inventory.remove_of_found found
  unfold find?
  rw [removed] at spares ⊢
  rw [Inventory.collect, (ordered.erase slot).find?_collectRounds_of_spared spares ?_ isSpared,
    Inventory.find?_erase_of_ne different]
  intro uid member
  exact uids uid (by simpa using member)

theorem find?_delete_of_spared (doomed : String → Prop) (spared : Slot → Prop) (now : Timestamp)
    (ordered : c.inventory.Ordered) (different : other ≠ slot) (isSpared : spared other)
    (uids : ∀ o, c.find? slot = some o → ∀ uid, o.metadata.uid = some uid → doomed uid)
    (spares : (c.inventory.erase slot).Spares (c.delete now slot).2.inventory doomed spared) :
    (c.delete now slot).2.find? other = c.find? other := by
  cases found : c.find? slot with
  | none => rw [delete_absent now found]
  | some stored =>
    by_cases free : stored.metadata.finalizers.getD [] = []
    · rw [delete_free now found free] at spares ⊢
      exact find?_remove_of_spared doomed spared ordered found different isSpared
        (uids stored found) spares
    · rcases delete_held now found free with same | ⟨marked, same⟩
      · rw [same]
      · rw [same, find?_write_of_ne different]

def Removable (c : Cluster) (slot : Slot) : Prop :=
  ∃ o, c.find? slot = some o ∧ o.metadata.finalizers.getD [] = []

theorem find?_delete_of_not_removable (now : Timestamp) (stays : ¬ c.Removable slot)
    (different : other ≠ slot) : (c.delete now slot).2.find? other = c.find? other := by
  cases found : c.find? slot with
  | none => rw [delete_absent now found]
  | some stored =>
    have held : stored.metadata.finalizers.getD [] ≠ [] := fun free => stays ⟨stored, found, free⟩
    rcases delete_held now found held with same | ⟨marked, same⟩
    · rw [same]
    · rw [same, find?_write_of_ne different]

theorem find?_of_remove (ordered : c.inventory.Ordered)
    (left : (c.remove slot).find? other = some o) : c.find? other = some o :=
  ordered.find?_of_sublist (Inventory.remove_sublist _ _) left

theorem find?_of_delete (now : Timestamp) (ordered : c.inventory.Ordered)
    (different : other ≠ slot) (left : (c.delete now slot).2.find? other = some o) :
    c.find? other = some o := by
  cases found : c.find? slot with
  | none =>
    rw [delete_absent now found] at left
    exact left
  | some stored =>
    by_cases free : stored.metadata.finalizers.getD [] = []
    · rw [delete_free now found free] at left
      exact find?_of_remove ordered left
    · rcases delete_held now found free with same | ⟨marked, same⟩
      · rw [same] at left
        exact left
      · rw [same, find?_write_of_ne different] at left
        exact left

theorem find?_remove_of_owned (ordered : c.inventory.Ordered) (found : c.find? slot = some o)
    (bears : o.metadata.uid = some uid) {owned : Object} (there : c.find? other = some owned)
    (refers : owned.RefersTo uid) : (c.remove slot).find? other = none := by
  by_cases same : other = slot
  · rw [same]
    exact find?_remove_self c slot
  · have removed : (c.remove slot).inventory =
        Inventory.collect o.metadata.uid.toList (c.inventory.erase slot) :=
      Inventory.remove_of_found found
    have staying : (c.inventory.erase slot).find? other = some owned :=
      (Inventory.find?_erase_of_ne same).trans there
    have member : uid ∈ o.metadata.uid.toList := by simp [bears]
    unfold find?
    rw [removed]
    exact (ordered.erase slot).find?_collectRounds_of_owned _ staying member refers

theorem find?_remove_of_heir {heir : Slot} {h owned : Object} (ordered : c.inventory.Ordered)
    (found : c.find? slot = some o) (was : c.find? heir = some h) (apart : heir ≠ slot)
    (gone : (c.remove slot).find? heir = none) (bears : h.metadata.uid = some uid)
    (there : c.find? other = some owned) (refers : owned.RefersTo uid) :
    (c.remove slot).find? other = none := by
  by_cases same : other = slot
  · rw [same]
    exact find?_remove_self c slot
  · have removed : (c.remove slot).inventory =
        Inventory.collect o.metadata.uid.toList (c.inventory.erase slot) :=
      Inventory.remove_of_found found
    unfold find? at gone ⊢
    rw [removed] at gone ⊢
    exact (ordered.erase slot).find?_collectRounds_of_heir (Nat.lt_succ_self _)
      ((Inventory.find?_erase_of_ne apart).trans was) gone bears
      ((Inventory.find?_erase_of_ne same).trans there) refers

end Cluster
end AgentOperator
