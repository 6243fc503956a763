import AgentOperator.Json

/-!
Reading back what JSON objects, lists and maps were made of. Where the names of the members differ,
their order does not matter. A reading in several steps succeeds if all of them do.
-/
namespace AgentOperator

theorem exists_ok_of_bind {ε α β : Type} {read : Except ε α} {next : α → Except ε β} {value : β}
    (same : (read >>= next) = .ok value) : ∃ a, read = .ok a ∧ next a = .ok value := by
  cases read with
  | error error => cases same
  | ok a => exact ⟨a, rfl, same⟩

theorem bind_of_ok {ε α β : Type} {read : Except ε α} {a : α} (same : read = .ok a)
    (next : α → Except ε β) : (read >>= next) = next a := by
  rw [same]
  rfl

theorem exists_ok_of_map {ε α β : Type} {read : Except ε α} {f : α → β} {value : β}
    (same : read.map f = .ok value) : ∃ a, read = .ok a ∧ f a = value := by
  cases read with
  | error error => cases same
  | ok a => exact ⟨a, rfl, Except.ok.inj same⟩

namespace Fields
variable {α : Type u} {entries : List (String × α)} {key : String}

theorem get?_append (first second : List (String × α)) (key : String) :
    Fields.get? (first ++ second) key = (Fields.get? first key).or (Fields.get? second key) :=
  List.lookup_append

theorem get?_of_not_mem (absent : key ∉ entries.map (·.1)) : Fields.get? entries key = none := by
  induction entries with
  | nil => rfl
  | cons entry rest ih =>
    rw [List.map_cons, List.mem_cons, not_or] at absent
    rw [get?_cons, if_neg absent.1, ih absent.2]

theorem get?_reverse (distinct : (entries.map (·.1)).Nodup) (key : String) :
    Fields.get? entries.reverse key = Fields.get? entries key := by
  induction entries with
  | nil => rfl
  | cons entry rest ih =>
    rw [List.map_cons, List.nodup_cons] at distinct
    rw [List.reverse_cons, get?_append, ih distinct.2, get?_cons, get?_cons, get?_nil]
    by_cases here : key = entry.1
    · rw [if_pos here, if_pos here, here, get?_of_not_mem distinct.1, Option.none_or]
    · rw [if_neg here, if_neg here, Option.or_none]

def present (entries : List (String × Option α)) : List (String × α) :=
  entries.filterMap fun entry => entry.2.map (entry.1, ·)

theorem names_present_sublist (entries : List (String × Option α)) :
    ((present entries).map (·.1)).Sublist (entries.map (·.1)) := by
  unfold present
  induction entries with
  | nil => exact List.Sublist.refl _
  | cons entry rest ih =>
    obtain ⟨name, value⟩ := entry
    cases value with
    | none => exact ih.cons name
    | some value => exact ih.cons_cons name

theorem get?_present {entries : List (String × Option α)} (distinct : (entries.map (·.1)).Nodup)
    (key : String) : Fields.get? (present entries) key = (Fields.get? entries key).join := by
  unfold present
  induction entries with
  | nil => rfl
  | cons entry rest ih =>
    obtain ⟨name, value⟩ := entry
    rw [List.map_cons, List.nodup_cons] at distinct
    rw [List.filterMap_cons, get?_cons]
    cases value with
    | none =>
      dsimp only [Option.map_none]
      rw [ih distinct.2]
      split
      · next here => rw [here, get?_of_not_mem distinct.1]; rfl
      · rfl
    | some value =>
      dsimp only [Option.map_some]
      rw [get?_cons, ih distinct.2]
      split <;> rfl

end Fields

namespace Json

theorem get?_object (entries : List (String × Json)) (key : String) :
    (object entries).get? key = Fields.get? entries.reverse key :=
  Fields.get?_ofList entries key

theorem get?_objectSome {entries : List (String × Option Json)}
    (distinct : (entries.map (·.1)).Nodup) (key : String) :
    (objectSome entries).get? key = (Fields.get? entries key).join := by
  have kept : ((Fields.present entries).map (·.1)).Nodup :=
    (Fields.names_present_sublist entries).nodup distinct
  show (object (Fields.present entries)).get? key = _
  rw [get?_object, Fields.get?_reverse kept, Fields.get?_present distinct]

@[simp] theorem textMap?_strMap (values : Fields String) :
    (strMap values).textMap? = some values := by
  show some ((values.mapValues Json.str).filterMap _) = _
  congr 1
  induction values with
  | nil => rfl
  | cons entry rest ih =>
    unfold Fields.mapValues at ih ⊢
    rw [List.map_cons, List.filterMap_cons, ih]
    rfl

@[simp] theorem texts?_strs (values : List String) : (strs values).texts? = some values := by
  show some ((values.map Json.str).filterMap _) = _
  congr 1
  induction values with
  | nil => rfl
  | cons value rest ih =>
    rw [List.map_cons, List.filterMap_cons, ih]
    rfl

theorem bind_read {α : Type} (write : α → Json) (read : Json → Option α)
    (inverse : ∀ a, read (write a) = some a) (value : Option α) :
    (value.map write).bind read = value := by
  cases value with
  | none => rfl
  | some a => exact inverse a

@[simp] theorem bind_str? (value : Option String) : (value.map str).bind str? = value :=
  bind_read str str? (fun _ => rfl) value

@[simp] theorem bind_int? (value : Option Int) : (value.map int).bind int? = value :=
  bind_read int int? (fun _ => rfl) value

@[simp] theorem bind_bool? (value : Option Bool) : (value.map bool).bind bool? = value :=
  bind_read bool bool? (fun _ => rfl) value

@[simp] theorem bind_textMap? (value : Option (Fields String)) :
    (value.map strMap).bind textMap? = value :=
  bind_read strMap textMap? textMap?_strMap value

@[simp] theorem bind_texts? (value : Option (List String)) :
    (value.map strs).bind texts? = value :=
  bind_read strs texts? texts?_strs value

end Json
end AgentOperator
