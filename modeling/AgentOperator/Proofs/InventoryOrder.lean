import AgentOperator.Proofs.Storage

/-!
Inventories in the order of their slots. Every write and every removal keeps the order, so a slot
occurs once and a removal brings no object to light.
-/
namespace AgentOperator

theorem text_eq_of_not_lt {a b : String} (first : ¬ a < b) (second : ¬ b < a) : a = b :=
  String.le_antisymm (String.not_lt.mp second) (String.not_lt.mp first)

namespace Key
variable {a b c : Key} {m n x y : String}

theorem before_cluster : (cluster x).before (cluster y) ↔ x < y := decide_eq_true_iff

theorem before_namespaced :
    (namespaced m x).before (namespaced n y) ↔ m < n ∨ m = n ∧ x < y := by
  show (decide (m < n) || (decide (m = n) && decide (x < y))) = true ↔ _
  rw [Bool.or_eq_true, Bool.and_eq_true, decide_eq_true_eq, decide_eq_true_eq, decide_eq_true_eq]

theorem not_before_self (a : Key) : ¬ a.before a := by
  obtain ⟨_ | n, x⟩ := a
  · exact fun before => String.lt_irrefl x (before_cluster.mp before)
  · intro before
    rcases before_namespaced.mp before with first | ⟨_, first⟩
    · exact String.lt_irrefl n first
    · exact String.lt_irrefl x first

theorem before_trans (first : a.before b) (second : b.before c) : a.before c := by
  obtain ⟨_ | m, x⟩ := a <;> obtain ⟨_ | n, y⟩ := b <;> obtain ⟨_ | k, z⟩ := c
  · exact before_cluster.mpr
      (String.lt_trans (before_cluster.mp first) (before_cluster.mp second))
  · rfl
  · cases second
  · rfl
  · cases first
  · cases first
  · cases second
  · refine before_namespaced.mpr ?_
    rcases before_namespaced.mp first with left | ⟨rfl, left⟩
    · rcases before_namespaced.mp second with right | ⟨rfl, _⟩
      · exact Or.inl (String.lt_trans left right)
      · exact Or.inl left
    · rcases before_namespaced.mp second with right | ⟨rfl, right⟩
      · exact Or.inl right
      · exact Or.inr ⟨rfl, String.lt_trans left right⟩

theorem before_total (different : a ≠ b) : a.before b ∨ b.before a := by
  obtain ⟨_ | m, x⟩ := a <;> obtain ⟨_ | n, y⟩ := b
  · by_cases first : x < y
    · exact Or.inl (before_cluster.mpr first)
    · refine Or.inr (before_cluster.mpr (Decidable.byContradiction fun second => ?_))
      exact different (by rw [text_eq_of_not_lt first second])
  · exact Or.inl rfl
  · exact Or.inr rfl
  · by_cases first : m < n
    · exact Or.inl (before_namespaced.mpr (Or.inl first))
    · by_cases second : n < m
      · exact Or.inr (before_namespaced.mpr (Or.inl second))
      · obtain rfl := text_eq_of_not_lt first second
        by_cases third : x < y
        · exact Or.inl (before_namespaced.mpr (Or.inr ⟨rfl, third⟩))
        · refine Or.inr (before_namespaced.mpr (Or.inr ⟨rfl, ?_⟩))
          refine Decidable.byContradiction fun fourth => ?_
          exact different (by rw [text_eq_of_not_lt third fourth])

end Key

namespace Slot

theorem before_iff {a b : Slot} : a.before b ↔
    a.kind.name < b.kind.name ∨ a.kind = b.kind ∧ a.key.before b.key := by
  simp only [before, Bool.or_eq_true, Bool.and_eq_true, decide_eq_true_eq]

theorem not_before_self (a : Slot) : ¬ a.before a := by
  intro before
  rcases before_iff.mp before with first | ⟨_, first⟩
  · exact String.lt_irrefl _ first
  · exact Key.not_before_self _ first

theorem before_trans {a b c : Slot} (first : a.before b) (second : b.before c) : a.before c := by
  refine before_iff.mpr ?_
  rcases before_iff.mp first with left | ⟨same, left⟩
  · rcases before_iff.mp second with right | ⟨again, _⟩
    · exact Or.inl (String.lt_trans left right)
    · exact Or.inl (again ▸ left)
  · rcases before_iff.mp second with right | ⟨again, right⟩
    · exact Or.inl (same ▸ right)
    · exact Or.inr ⟨same.trans again, Key.before_trans left right⟩

theorem before_total {a b : Slot} (different : a ≠ b) : a.before b ∨ b.before a := by
  rw [before_iff, before_iff]
  by_cases same : a.kind = b.kind
  · have keys : a.key ≠ b.key := by
      intro sameKey
      obtain ⟨kind, key⟩ := a
      obtain ⟨_, _⟩ := b
      cases same
      cases sameKey
      exact different rfl
    rcases Key.before_total keys with first | second
    · exact Or.inl (Or.inr ⟨same, first⟩)
    · exact Or.inr (Or.inr ⟨same.symm, second⟩)
  · by_cases first : a.kind.name < b.kind.name
    · exact Or.inl (Or.inl first)
    · refine Or.inr (Or.inl (Decidable.byContradiction fun second => same ?_))
      exact Kind.name_injective (text_eq_of_not_lt first second)

end Slot

namespace Inventory
variable {inv rest : Inventory} {slot : Slot} {object o : Object}

def Ordered (inv : Inventory) : Prop := inv.Pairwise fun a b => a.1.before b.1

theorem Ordered.sublist (ordered : inv.Ordered) (part : rest.Sublist inv) : rest.Ordered :=
  List.Pairwise.sublist part ordered

theorem mem_put {entry : Slot × Object} (member : entry ∈ inv.put slot object) :
    entry = (slot, object) ∨ entry ∈ inv := by
  induction inv with
  | nil => exact Or.inl (List.mem_singleton.mp member)
  | cons head rest ih =>
    obtain ⟨s, o⟩ := head
    simp only [put] at member
    split at member
    · rcases List.mem_cons.mp member with same | later
      · exact Or.inl same
      · exact Or.inr (List.mem_cons_of_mem _ later)
    · split at member
      · exact List.mem_cons.mp member
      · rcases List.mem_cons.mp member with same | later
        · exact Or.inr (same ▸ List.mem_cons_self)
        · exact (ih later).imp_right (List.mem_cons_of_mem _)

theorem Ordered.put (ordered : inv.Ordered) (slot : Slot) (object : Object) :
    (inv.put slot object).Ordered := by
  induction inv with
  | nil => exact List.pairwise_singleton _ _
  | cons head rest ih =>
    obtain ⟨s, o⟩ := head
    obtain ⟨first, tail⟩ := List.pairwise_cons.mp ordered
    simp only [Inventory.put]
    split
    · next same =>
      subst same
      exact List.pairwise_cons.mpr ⟨first, tail⟩
    · next different =>
      split
      · next before =>
        refine List.pairwise_cons.mpr ⟨?_, ordered⟩
        intro entry member
        rcases List.mem_cons.mp member with rfl | later
        · exact before
        · exact Slot.before_trans before (first entry later)
      · next notBefore =>
        refine List.pairwise_cons.mpr ⟨?_, ih tail⟩
        intro entry member
        rcases mem_put member with rfl | old
        · exact (Slot.before_total different).resolve_left notBefore
        · exact first entry old

theorem mem_of_find? (found : inv.find? slot = some o) : (slot, o) ∈ inv := by
  induction inv with
  | nil => cases found
  | cons head rest ih =>
    obtain ⟨s, o'⟩ := head
    rw [find?_cons] at found
    split at found
    · next same =>
      cases found
      exact same ▸ List.mem_cons_self
    · exact List.mem_cons_of_mem _ (ih found)

theorem Ordered.find?_of_mem (ordered : inv.Ordered) (member : (slot, o) ∈ inv) :
    inv.find? slot = some o := by
  induction inv with
  | nil => cases member
  | cons head rest ih =>
    obtain ⟨first, tail⟩ := List.pairwise_cons.mp ordered
    rcases List.mem_cons.mp member with rfl | later
    · simp
    · obtain ⟨s, o'⟩ := head
      have different : slot ≠ s := by
        rintro rfl
        have before := first (slot, o) later
        dsimp only at before
        exact Slot.not_before_self slot before
      rw [find?_cons, if_neg different]
      exact ih tail later

theorem Ordered.find?_of_sublist (ordered : inv.Ordered) (part : rest.Sublist inv)
    (found : rest.find? slot = some o) : inv.find? slot = some o :=
  ordered.find?_of_mem (part.mem (mem_of_find? found))

theorem collectRounds_sublist (rounds : Nat) (uids : List String) (inv : Inventory) :
    (collectRounds rounds uids inv).Sublist inv := by
  induction rounds generalizing uids inv with
  | zero => exact List.Sublist.refl inv
  | succ rounds ih =>
    rw [collectRounds, List.partition_eq_filter_filter]
    dsimp only
    split
    · exact List.filter_sublist
    · exact (ih _ _).trans List.filter_sublist

theorem remove_sublist (inv : Inventory) (slot : Slot) : (inv.remove slot).Sublist inv := by
  unfold remove
  split
  · exact List.Sublist.refl inv
  · rw [collect]
    exact (collectRounds_sublist _ _ _).trans List.filter_sublist

end Inventory

namespace Cluster
variable {c c' : Cluster} {events : List Event}

theorem ordered_write (ordered : c.inventory.Ordered) (slot : Slot) (object : Object) :
    (c.write slot object).2.inventory.Ordered :=
  ordered.put slot _

theorem ordered_carryOut (ordered : c.inventory.Ordered) (now : Timestamp) (call : Call) :
    (c.carryOut now call).2.inventory.Ordered := by
  cases call with
  | get slot => exact ordered
  | requestToken account request => exact ordered
  | create r =>
    show (c.create r).2.inventory.Ordered
    unfold create
    split
    · exact ordered
    · exact ordered_write ordered _ _
  | replace r =>
    show (c.replace r).2.inventory.Ordered
    unfold replace
    split
    · exact ordered
    · dsimp only
      split
      · exact (ordered_write ordered _ _).sublist (Inventory.remove_sublist _ _)
      · exact ordered_write ordered _ _
  | replaceStatus r =>
    show (c.replaceStatus r).2.inventory.Ordered
    unfold replaceStatus
    split
    · exact ordered
    · exact ordered_write ordered _ _
  | delete slot =>
    show (c.delete now slot).2.inventory.Ordered
    unfold delete
    split
    · exact ordered
    · split
      · exact ordered.sublist (Inventory.remove_sublist _ _)
      · split
        · exact ordered
        · exact ordered_write ordered _ _
  | apply r manager force =>
    show (c.apply r).2.inventory.Ordered
    unfold apply
    split
    · exact ordered_write ordered _ _
    · exact ordered_write ordered _ _

theorem Serves.ordered (serves : Serves c events c') (ordered : c.inventory.Ordered) :
    c'.inventory.Ordered :=
  serves.keeps (P := fun d => d.inventory.Ordered)
    (fun _ _ alike ordered => alike.inventory ▸ ordered)
    (fun _ now call (_ : True) ordered => ordered_carryOut ordered now call)
    (fun _ _ _ => trivial) ordered

end Cluster
end AgentOperator
