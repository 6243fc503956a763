import Mathlib.Data.List.Forall2
import AgentOperator.Proofs.JsonMembers
import AgentOperator.Shape

/-!
When a value is of the shape of a record: each member that the record knows is null or of the shape
of the member. So a record is of its shape if it was put together member by member from values that
are.
-/
namespace AgentOperator

namespace Fields
variable {α : Type u} {fields : Fields α} {key : String} {value : α} {entry : String × α}

theorem mem_of_get? (found : fields.get? key = some value) : (key, value) ∈ fields := by
  induction fields with
  | nil => cases found
  | cons head rest ih =>
    obtain ⟨k, v⟩ := head
    rw [get?_cons] at found
    split at found
    · next same =>
      cases found
      rw [same]
      exact List.mem_cons_self
    · exact List.mem_cons_of_mem _ (ih found)

theorem get?_of_mem (distinct : (fields.map (·.1)).Nodup) (member : (key, value) ∈ fields) :
    fields.get? key = some value := by
  induction fields with
  | nil => cases member
  | cons head rest ih =>
    rw [List.map_cons, List.nodup_cons] at distinct
    rcases List.mem_cons.mp member with rfl | later
    · rw [get?_cons, if_pos rfl]
    · have other : key ≠ head.1 := by
        intro same
        exact distinct.1 (List.mem_map.mpr ⟨_, later, same⟩)
      rw [get?_cons, if_neg other]
      exact ih distinct.2 later

theorem mem_insert (member : entry ∈ fields.insert key value) :
    entry = (key, value) ∨ entry ∈ fields := by
  induction fields with
  | nil => exact Or.inl (List.mem_singleton.mp member)
  | cons head rest ih =>
    obtain ⟨k, v⟩ := head
    simp only [insert] at member
    split at member
    · exact List.mem_cons.mp member
    · split at member
      · rcases List.mem_cons.mp member with new | old
        · exact Or.inl new
        · exact Or.inr (List.mem_cons_of_mem _ old)
      · rcases List.mem_cons.mp member with same | later
        · exact Or.inr (same ▸ List.mem_cons_self)
        · rcases ih later with new | old
          · exact Or.inl new
          · exact Or.inr (List.mem_cons_of_mem _ old)

theorem mem_ofList {entries : List (String × α)} (member : entry ∈ ofList entries) :
    entry ∈ entries := by
  rw [ofList, List.foldl_eq_foldr_reverse] at member
  rw [← List.mem_reverse]
  generalize entries.reverse = reversed at member ⊢
  induction reversed with
  | nil => cases member
  | cons head rest ih =>
    rw [List.foldr_cons] at member
    rcases mem_insert member with new | old
    · exact new ▸ List.mem_cons_self
    · exact List.mem_cons_of_mem _ (ih old)

end Fields

namespace Shape
variable {item shape : Shape} {items : List Json} {fields : Fields Json} {json value : Json}
  {title name : String}

theorem both_ok_iff {first second : Decoded Unit} :
    (first >>= fun _ => second) = .ok () ↔ first = .ok () ∧ second = .ok () := by
  cases first with
  | error error => simp [bind, Except.bind]
  | ok value => simp [bind, Except.bind]

theorem checkItems_iff :
    checkItems item items = .ok () ↔ ∀ json ∈ items, check item json = .ok () := by
  induction items with
  | nil => simp [checkItems]
  | cons head rest ih => rw [checkItems, both_ok_iff, ih, List.forall_mem_cons]

theorem checkValues_iff :
    checkValues item fields = .ok () ↔ ∀ entry ∈ fields, check item entry.2 = .ok () := by
  induction fields with
  | nil => simp [checkValues]
  | cons head rest ih => rw [checkValues, both_ok_iff, ih, List.forall_mem_cons]

theorem checkMembers_iff {members : List (String × Occurrence × Shape)} :
    checkMembers members fields = .ok () ↔ ∀ entry ∈ fields, ∀ occurrence shape,
      List.lookup entry.1 members = some (occurrence, shape) →
        occurrence.nullable && entry.2 = .null ∨ check shape entry.2 = .ok () := by
  induction fields with
  | nil => simp [checkMembers]
  | cons head rest ih =>
    rw [List.forall_mem_cons, ← ih, checkMembers]
    cases known : List.lookup head.1 members with
    | none => simp
    | some found =>
      have only : (∀ occurrence shape, some found = some (occurrence, shape) →
          occurrence.nullable && head.2 = .null ∨ check shape head.2 = .ok ()) ↔
          (found.1.nullable && head.2 = .null ∨ check found.2 head.2 = .ok ()) :=
        ⟨fun all => all _ _ rfl, by rintro fits _ _ ⟨⟩; exact fits⟩
      rw [only]
      dsimp only
      split
      · next null => simp [null]
      · next given => rw [both_ok_iff, or_iff_right given]

theorem lookup_free {members : List (String × Shape)} :
    List.lookup name (members.map fun (name, shape) => (name, Occurrence.free, shape)) =
      (List.lookup name members).map (Occurrence.free, ·) := by
  induction members with
  | nil => rfl
  | cons head rest ih =>
    rw [List.map_cons, List.lookup_cons, List.lookup_cons, ih]
    split <;> rfl

theorem checkComplete_of_free {members : List (String × Occurrence × Shape)}
    (free : ∀ member ∈ members, member.2.1 = .free) (names : List String) :
    checkComplete members names = .ok () := by
  have none : missing? members names = none := by
    unfold missing?
    rw [Option.map_eq_none_iff, List.find?_eq_none]
    intro member inMembers
    simp [free member inMembers, Occurrence.free]
  rw [checkComplete, none]

theorem check_api_iff {members : List (String × Shape)} : check (.api title members) json = .ok () ↔
    ∃ fields, json = .obj fields ∧ ∀ entry ∈ fields, ∀ shape,
      List.lookup entry.1 members = some shape →
        entry.2 = .null ∨ check shape entry.2 = .ok () := by
  unfold api
  cases json with
  | obj fields =>
    rw [check, both_ok_iff, checkMembers_iff, and_iff_left (checkComplete_of_free ?free _)]
    case free => exact List.forall_mem_map.mpr fun _ _ => rfl
    constructor
    · intro all
      refine ⟨fields, rfl, fun entry member shape found => ?_⟩
      have fits := all entry member .free shape (by rw [lookup_free, found]; rfl)
      simpa [Occurrence.free] using fits
    · rintro ⟨_, ⟨⟩, all⟩ entry member occurrence shape found
      rw [lookup_free] at found
      obtain ⟨shape, found, same⟩ := Option.map_eq_some_iff.mp found
      cases same
      simpa [Occurrence.free] using all entry member shape found
  | _ => simp [check, wrong]

theorem member_of_check {members : List (String × Shape)}
    (checked : check (.api title members) json = .ok ())
    (known : List.lookup name members = some shape)
    (found : json.get? name = some value) : value = .null ∨ check shape value = .ok () := by
  obtain ⟨fields, rfl, each⟩ := check_api_iff.mp checked
  exact each (name, value) (Fields.mem_of_get? found) shape known

def Passes (shape : Shape) (value : Option Json) : Prop :=
  ∀ json, value = some json → check shape json = .ok ()

theorem Passes.map {α : Type} {encode : α → Json} {value : Option α}
    (each : ∀ a, value = some a → check shape (encode a) = .ok ()) :
    Passes shape (value.map encode) := by
  intro json same
  obtain ⟨a, present, rfl⟩ := Option.map_eq_some_iff.mp same
  exact each a present

theorem passes_of_mem {members : List (String × Shape)} {entries : List (String × Option Json)}
    {value : Option Json}
    (each : List.Forall₂ (fun member entry => member.1 = entry.1 ∧ Passes member.2 entry.2)
      members entries) (inEntries : (name, value) ∈ entries) :
    ∃ shape, (name, shape) ∈ members ∧ Passes shape value := by
  induction each with
  | nil => cases inEntries
  | cons first rest ih =>
    rcases List.mem_cons.mp inEntries with rfl | later
    · obtain ⟨rfl, passes⟩ := first
      exact ⟨_, List.mem_cons_self, passes⟩
    · obtain ⟨shape, inMembers, passes⟩ := ih later
      exact ⟨shape, List.mem_cons_of_mem _ inMembers, passes⟩

theorem check_objectSome {members : List (String × Shape)} {entries : List (String × Option Json)}
    (distinct : (members.map (·.1)).Nodup)
    (each : List.Forall₂ (fun member entry => member.1 = entry.1 ∧ Passes member.2 entry.2)
      members entries) : check (.api title members) (.objectSome entries) = .ok () := by
  refine check_api_iff.mpr ⟨_, rfl, ?_⟩
  intro entry inFields shape known
  obtain ⟨⟨name, value⟩, inEntries, present⟩ := List.mem_filterMap.mp (Fields.mem_ofList inFields)
  obtain ⟨json, rfl, rfl⟩ := Option.map_eq_some_iff.mp present
  obtain ⟨shape', inMembers, passes⟩ := passes_of_mem each inEntries
  cases known.symm.trans (Fields.get?_of_mem distinct inMembers)
  exact Or.inr (passes json rfl)

theorem check_textMap (values : Fields String) : check textMap (.strMap values) = .ok () := by
  show checkValues .text (values.mapValues Json.str) = .ok ()
  rw [checkValues_iff]
  intro entry member
  obtain ⟨field, _, rfl⟩ := List.mem_map.mp member
  rfl

theorem check_sequence {α : Type} {encode : α → Json} {values : List α}
    (each : ∀ a ∈ values, check item (encode a) = .ok ()) :
    check (.sequence item) (.arr (values.map encode)) = .ok () := by
  show checkItems item (values.map encode) = .ok ()
  rw [checkItems_iff]
  intro json member
  obtain ⟨a, present, rfl⟩ := List.mem_map.mp member
  exact each a present

theorem check_texts (values : List String) : check texts (.strs values) = .ok () :=
  check_sequence fun _ _ => rfl

end Shape
end AgentOperator
