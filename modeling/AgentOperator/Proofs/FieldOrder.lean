import AgentOperator.Proofs.JsonMembers
import Mathlib.Data.List.Sort

/-!
Maps in the order of their keys. A key has one place in such a map, whether it is there or not, and
putting a value there keeps the order. So a map is determined by what it holds at each key.
-/
namespace AgentOperator.Fields
variable {α : Type u} {fields other : Fields α} {key : String}

/-- The keys ascend, so each of them has one entry. -/
def Ordered (fields : Fields α) : Prop := fields.Pairwise fun a b => a.1 < b.1

instance (fields : Fields α) : Decidable fields.Ordered :=
  inferInstanceAs (Decidable (fields.Pairwise fun a b => a.1 < b.1))

theorem get?_eq_none_of_lt (greater : ∀ entry ∈ fields, key < entry.1) :
    fields.get? key = none := by
  refine get?_of_not_mem fun member => ?_
  obtain ⟨entry, inMap, same⟩ := List.mem_map.mp member
  exact String.lt_irrefl key (same ▸ greater entry inMap)

theorem Ordered.exists_place (ordered : fields.Ordered) (key : String) :
    ∃ before after : Fields α,
      (∀ entry ∈ before, entry.1 < key) ∧ (∀ entry ∈ after, key < entry.1) ∧
      fields = before ++ ((fields.get? key).map (key, ·)).toList ++ after ∧
      ∀ value, fields.insert key value = before ++ (key, value) :: after := by
  induction fields with
  | nil => exact ⟨[], [], by simp, by simp, rfl, fun value => rfl⟩
  | cons entry rest ih =>
    obtain ⟨k, v⟩ := entry
    obtain ⟨first, tail⟩ := List.pairwise_cons.mp ordered
    by_cases lesser : key < k
    · have greater : ∀ entry ∈ (k, v) :: rest, key < entry.1 :=
        List.forall_mem_cons.mpr
          ⟨lesser, fun entry later => String.lt_trans lesser (first entry later)⟩
      exact ⟨[], (k, v) :: rest, by simp, greater, by simp [get?_eq_none_of_lt greater],
        fun value => insert_cons_of_lt lesser v value rest⟩
    · by_cases same : key = k
      · subst same
        exact ⟨[], rest, by simp, first, by simp,
          fun value => by rw [insert, if_neg lesser, if_pos rfl]; rfl⟩
      · have greater : k < key := by
          refine Decidable.byContradiction fun no => same ?_
          exact String.le_antisymm (String.not_lt.mp no) (String.not_lt.mp lesser)
        obtain ⟨before, after, below, above, parts, puts⟩ := ih tail
        refine ⟨(k, v) :: before, after, List.forall_mem_cons.mpr ⟨greater, below⟩, above, ?_,
          fun value => ?_⟩
        · rw [get?_cons, if_neg same]
          exact congrArg ((k, v) :: ·) parts
        · rw [insert_cons_of_not_lt lesser same, puts value]
          rfl

theorem Ordered.insert (ordered : fields.Ordered) (key : String) (value : α) :
    (fields.insert key value).Ordered := by
  obtain ⟨before, after, below, above, parts, puts⟩ := ordered.exists_place key
  rw [puts value]
  rw [parts, List.append_assoc] at ordered
  obtain ⟨first, rest, apart⟩ := List.pairwise_append.mp ordered
  obtain ⟨_, last, _⟩ := List.pairwise_append.mp rest
  refine List.pairwise_append.mpr ⟨first, List.pairwise_cons.mpr ⟨above, last⟩, ?_⟩
  intro a inBefore b member
  rcases List.mem_cons.mp member with rfl | inAfter
  · exact below a inBefore
  · exact apart a inBefore b (List.mem_append_right _ inAfter)

theorem Ordered.mapValues {β : Type v} (ordered : fields.Ordered) (f : α → β) :
    (fields.mapValues f).Ordered := by
  unfold Fields.mapValues
  exact List.pairwise_map.mpr ordered

theorem Ordered.mem_insert (ordered : fields.Ordered) {value : α} {entry : String × α}
    (member : entry ∈ fields.insert key value) : entry = (key, value) ∨ entry ∈ fields := by
  obtain ⟨before, after, _, _, parts, puts⟩ := ordered.exists_place key
  rw [puts value, List.mem_append, List.mem_cons] at member
  rcases member with inBefore | here | inAfter
  · exact Or.inr (parts ▸ List.mem_append_left _ (List.mem_append_left _ inBefore))
  · exact Or.inl here
  · exact Or.inr (parts ▸ List.mem_append_right _ inAfter)

theorem Ordered.mem_iff (ordered : fields.Ordered) {entry : String × α} :
    entry ∈ fields ↔ fields.get? entry.1 = some entry.2 := by
  obtain ⟨key, value⟩ := entry
  obtain ⟨before, after, below, above, parts, -⟩ := ordered.exists_place key
  have notBefore : (key, value) ∉ before := fun member => String.lt_irrefl key (below _ member)
  have notAfter : (key, value) ∉ after := fun member => String.lt_irrefl key (above _ member)
  calc (key, value) ∈ fields
      ↔ (key, value) ∈ before ++ ((fields.get? key).map (key, ·)).toList ++ after := by rw [← parts]
    _ ↔ (fields.get? key).map (key, ·) = some (key, value) := by simp [notBefore, notAfter]
    _ ↔ fields.get? key = some value := by simp

theorem Ordered.ext (first : fields.Ordered) (second : other.Ordered)
    (same : ∀ key, fields.get? key = other.get? key) : fields = other := by
  have irrefl : Std.Irrefl fun a b : String × α => a.1 < b.1 := ⟨fun a => String.lt_irrefl a.1⟩
  have antisymm : Std.Antisymm fun a b : String × α => a.1 < b.1 :=
    ⟨fun a b before after => absurd (String.lt_trans before after) (String.lt_irrefl a.1)⟩
  refine List.Pairwise.eq_of_mem_iff first second fun entry => ?_
  rw [first.mem_iff, second.mem_iff, same]

end AgentOperator.Fields
