/-!
Finite maps from text to values, kept as lists in ascending key order. `insert` keeps the order and
replaces, so one map has one list and equality of maps is equality of lists.
-/
namespace AgentOperator

abbrev Fields (α : Type u) := List (String × α)

namespace Fields
variable {α : Type u} {β : Type v}

def get? (fields : Fields α) (key : String) : Option α :=
  fields.lookup key

def keys (fields : Fields α) : List String :=
  fields.map (·.1)

def insert (fields : Fields α) (key : String) (value : α) : Fields α :=
  match fields with
  | [] => [(key, value)]
  | (k, v) :: rest =>
    if key < k then (key, value) :: (k, v) :: rest
    else if key = k then (key, value) :: rest
    else (k, v) :: insert rest key value

def erase (fields : Fields α) (key : String) : Fields α :=
  fields.filter (·.1 ≠ key)

/-- Among entries of one key the last counts. -/
def ofList (entries : List (String × α)) : Fields α :=
  entries.foldl (fun fields entry => fields.insert entry.1 entry.2) []

def mapValues (f : α → β) (fields : Fields α) : Fields β :=
  fields.map fun entry => (entry.1, f entry.2)

/-- Replaces the value at `key` by `f` of it, where an absent key counts as `fallback`. -/
def update (fields : Fields α) (key : String) (fallback : α) (f : α → α) : Fields α :=
  fields.insert key (f ((fields.get? key).getD fallback))

@[simp] theorem get?_nil (key : String) : Fields.get? ([] : Fields α) key = none := rfl

@[simp] theorem get?_cons (k : String) (v : α) (rest : Fields α) (key : String) :
    Fields.get? ((k, v) :: rest) key = if key = k then some v else Fields.get? rest key := by
  by_cases same : key = k
  · simp [get?, same]
  · have no : (key == k) = false := by simpa using same
    simp [get?, List.lookup_cons, no, same]

theorem insert_cons_of_lt {k key : String} (first : key < k) (v value : α) (rest : Fields α) :
    Fields.insert ((k, v) :: rest) key value = (key, value) :: (k, v) :: rest :=
  if_pos first

theorem insert_cons_of_not_lt {k key : String} (later : ¬ key < k) (different : key ≠ k)
    (v value : α) (rest : Fields α) :
    Fields.insert ((k, v) :: rest) key value = (k, v) :: Fields.insert rest key value :=
  (if_neg later).trans (if_neg different)

theorem get?_insert_self (fields : Fields α) (key : String) (value : α) :
    (fields.insert key value).get? key = some value := by
  induction fields with
  | nil => simp [insert]
  | cons entry rest ih =>
    obtain ⟨k, v⟩ := entry
    simp only [insert]
    split
    · simp
    · split
      · simp
      · next different => simpa [different] using ih

theorem get?_insert_of_ne (fields : Fields α) {key other : String} (value : α)
    (different : other ≠ key) : (fields.insert key value).get? other = fields.get? other := by
  induction fields with
  | nil => simp [insert, different]
  | cons entry rest ih =>
    obtain ⟨k, v⟩ := entry
    simp only [insert]
    split
    · simp [different]
    · split
      · next same => subst same; simp [different]
      · simp [ih]

theorem get?_insert (fields : Fields α) (key other : String) (value : α) :
    (fields.insert key value).get? other =
      if other = key then some value else fields.get? other := by
  by_cases same : other = key
  · subst same
    rw [if_pos rfl, get?_insert_self]
  · rw [if_neg same, get?_insert_of_ne fields value same]

theorem get?_erase (fields : Fields α) (key other : String) :
    (fields.erase key).get? other = if other = key then none else fields.get? other := by
  induction fields with
  | nil => simp [erase]
  | cons entry rest ih =>
    obtain ⟨k, v⟩ := entry
    unfold erase at ih ⊢
    by_cases same : k = key
    · rw [List.filter_cons_of_neg (by simp [same]), ih, get?_cons, same]
      split <;> rfl
    · rw [List.filter_cons_of_pos (by simp [same]), get?_cons, ih, get?_cons]
      by_cases here : other = k
      · rw [if_pos here, if_neg (here ▸ same), if_pos here]
      · rw [if_neg here, if_neg here]

theorem erase_of_absent {fields : Fields α} {key : String} (absent : fields.get? key = none) :
    fields.erase key = fields := by
  induction fields with
  | nil => rfl
  | cons entry rest ih =>
    obtain ⟨k, v⟩ := entry
    rw [get?_cons] at absent
    split at absent
    · cases absent
    · next different =>
      unfold erase at ih ⊢
      rw [List.filter_cons_of_pos (by simp [Ne.symm different]), ih absent]

theorem get?_mapValues (f : α → β) (fields : Fields α) (key : String) :
    (fields.mapValues f).get? key = (fields.get? key).map f := by
  induction fields with
  | nil => rfl
  | cons entry rest ih =>
    obtain ⟨k, v⟩ := entry
    unfold mapValues at ih ⊢
    rw [List.map_cons, get?_cons, get?_cons, ih]
    split <;> rfl

theorem get?_ofList (entries : List (String × α)) (key : String) :
    (ofList entries).get? key = Fields.get? entries.reverse key := by
  rw [ofList, List.foldl_eq_foldr_reverse]
  induction entries.reverse with
  | nil => rfl
  | cons entry rest ih =>
    obtain ⟨k, v⟩ := entry
    rw [List.foldr_cons, get?_insert, get?_cons, ih]

end Fields
end AgentOperator
