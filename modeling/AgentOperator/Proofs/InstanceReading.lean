import AgentOperator.Instance
import AgentOperator.Proofs.JsonMembers
import Mathlib.Data.List.Forall2

/-!
What an accepted instance says is what its JSON says. A record has a value under a name as a member
of an object or as the item in the name's place of a list, and a value of another type than the
name's is not accepted, so the specification and the status can be looked up in the JSON.
-/
namespace AgentOperator

namespace Json

/-- What a record with these names has under one of them. -/
def under (names : List String) (name : String) : Json → Option Json
  | .obj fields => Fields.get? fields name
  | .arr items => items[names.idxOf name]?
  | _ => none

theorem lookup_zip {names : List String} {name : String} (listed : name ∈ names)
    (items : List Json) : (names.zip items).lookup name = items[names.idxOf name]? := by
  induction names generalizing items with
  | nil => cases listed
  | cons first rest ih =>
    cases items with
    | nil => rfl
    | cons item items =>
      rw [List.zip_cons_cons, List.lookup_cons, List.idxOf_cons]
      by_cases here : name = first
      · simp [here]
      · have there : name ∈ rest := (List.mem_cons.mp listed).resolve_left here
        have apart : (name == first) = false := by simpa using here
        have apart' : (first == name) = false := by simpa using Ne.symm here
        simp [apart, apart', ih there items]

theorem names_zip_sublist (names : List String) (items : List Json) :
    ((names.zip items).map (·.1)).Sublist names := by
  induction names generalizing items with
  | nil => exact List.nil_sublist _
  | cons first rest ih =>
    cases items with
    | nil => exact List.nil_sublist _
    | cons item items => exact (ih items).cons_cons first

end Json

namespace Decode
variable {α : Type} {decode : Json → Decoded α} {value? : Json → Option α} {fields : Fields Json}
  {names : List String} {name expected : String} {json : Json}

/-- The fields have what the record has under each of its names. -/
def Places (names : List String) (fields : Fields Json) (json : Json) : Prop :=
  ∀ name ∈ names, fields.get? name = json.under names name

theorem places_of_record (distinct : names.Nodup)
    (read : record expected names json = .ok fields) : Places names fields json := by
  intro name listed
  unfold record at read
  split at read
  · cases read
    rfl
  · next items =>
    split at read
    · cases read
      have zipped : ((names.zip items).map (·.1)).Nodup :=
        (Json.names_zip_sublist names items).nodup distinct
      rw [Fields.get?_ofList, Fields.get?_reverse zipped]
      exact Json.lookup_zip listed items
    · cases read
  · cases read

/-- What is accepted has just the value that is read. -/
def Faithful (decode : Json → Decoded α) (value? : Json → Option α) : Prop :=
  ∀ json a, decode json = .ok a → value? json = some a

theorem faithful_text : Faithful text Json.str? := by
  intro json a read
  cases json <;> cases read
  rfl

theorem faithful_boolean : Faithful boolean Json.bool? := by
  intro json a read
  cases json <;> cases read
  rfl

theorem faithful_signed {bound : Int} : Faithful (signed bound expected) Json.int? := by
  intro json a read
  unfold signed at read
  split at read
  · split at read <;> cases read
    rfl
  · cases read

theorem faithful_textMap : Faithful textMap Json.textMap? := by
  intro json values read
  unfold textMap mapping at read
  split at read
  · next entries =>
    show some (entries.filterMap _) = _
    congr 1
    induction entries generalizing values with
    | nil =>
      cases read
      rfl
    | cons entry rest ih =>
      obtain ⟨name, json⟩ := entry
      rw [List.mapM_cons] at read
      obtain ⟨first, head, read⟩ := exists_ok_of_bind read
      obtain ⟨others, later, read⟩ := exists_ok_of_bind read
      obtain ⟨value, decoded, head⟩ := exists_ok_of_bind head
      cases read
      cases head
      rw [List.filterMap_cons, ih others later, faithful_text json value decoded]
      rfl
  · cases read

theorem eq_of_present (faithful : Faithful decode value?) {value : Option α}
    (read : present fields name decode = .ok value) : value = (fields.get? name).bind value? := by
  unfold present at read
  split at read
  · next absent =>
    cases read
    rw [absent]
    rfl
  · next json found =>
    obtain ⟨a, decoded, rfl⟩ := exists_ok_of_map read
    rw [found]
    exact (faithful json a decoded).symm

theorem eq_of_member (faithful : Faithful decode value?) (null : value? .null = none)
    {value : Option α} (read : member fields name decode = .ok value) :
    value = (fields.get? name).bind value? := by
  unfold member at read
  split at read
  · next absent =>
    cases read
    rw [absent]
    rfl
  · next json found =>
    rw [found]
    unfold optional at read
    split at read
    · cases read
      exact null.symm
    · obtain ⟨a, decoded, rfl⟩ := exists_ok_of_map read
      exact (faithful _ a decoded).symm

theorem Places.eq_of_present (places : Places names fields json) (listed : name ∈ names)
    (faithful : Faithful decode value?) {value : Option α}
    (read : present fields name decode = .ok value) :
    value = (json.under names name).bind value? := by
  rw [← places name listed]
  exact Decode.eq_of_present faithful read

theorem Places.eq_of_member (places : Places names fields json) (listed : name ∈ names)
    (faithful : Faithful decode value?) (null : value? .null = none) {value : Option α}
    (read : member fields name decode = .ok value) :
    value = (json.under names name).bind value? := by
  rw [← places name listed]
  exact Decode.eq_of_member faithful null read

theorem absent_of_present (read : present fields name decode = .ok none) :
    fields.get? name = none := by
  unfold present at read
  split at read
  · assumption
  · obtain ⟨_, _, same⟩ := exists_ok_of_map read
    cases same

theorem exists_of_present {a : α} (read : present fields name decode = .ok (some a)) :
    ∃ json, fields.get? name = some json ∧ decode json = .ok a := by
  unfold present at read
  split at read
  · cases read
  · next json found =>
    obtain ⟨_, decoded, same⟩ := exists_ok_of_map read
    cases same
    exact ⟨json, found, decoded⟩

theorem exists_of_member {a : α} (read : member fields name decode = .ok (some a)) :
    ∃ json, fields.get? name = some json ∧ decode json = .ok a := by
  unfold member at read
  split at read
  · cases read
  · next json found =>
    unfold optional at read
    split at read
    · cases read
    · obtain ⟨_, decoded, same⟩ := exists_ok_of_map read
      cases same
      exact ⟨_, found, decoded⟩

theorem null_of_member (read : member fields name decode = .ok none) :
    ∀ given ∈ fields.get? name, given = .null := by
  intro given found
  unfold member at read
  rw [found] at read
  dsimp only at read
  unfold optional at read
  split at read
  · rfl
  · obtain ⟨_, _, same⟩ := exists_ok_of_map read
    cases same

theorem eq_some_of_require {value : Option α} {a : α} (required : require name value = .ok a) :
    value = some a := by
  cases value with
  | none => cases required
  | some b =>
    cases required
    rfl

theorem exists_items_of_sequence {values : List α} (read : sequence decode json = .ok values) :
    ∃ items, json = .arr items ∧
      List.Forall₂ (fun item a => decode item = .ok a) items values := by
  unfold sequence at read
  split at read
  · next items =>
    refine ⟨items, rfl, ?_⟩
    induction items generalizing values with
    | nil =>
      cases read
      exact .nil
    | cons item rest ih =>
      rw [List.mapM_cons] at read
      obtain ⟨first, decoded, read⟩ := exists_ok_of_bind read
      obtain ⟨others, later, read⟩ := exists_ok_of_bind read
      cases read
      exact .cons decoded (ih later)
  · cases read

end Decode

/-! ### Specifications -/

namespace AgentSpec

def names : List String := ["image", "port", "config", "nodeSelector", "credentials"]

structure StatedBy (json : Json) (spec : AgentSpec) : Prop where
  image : spec.image = (json.under names "image").bind Json.str?
  port : spec.port = (json.under names "port").bind Json.int?
  config : spec.config = ((json.under names "config").bind Json.textMap?).getD []
  nodeSelector : spec.nodeSelector = (json.under names "nodeSelector").bind Json.textMap?
  credentials : spec.credentials = ((json.under names "credentials").bind fun inner =>
    (inner.under ["enabled"] "enabled").bind Json.bool?).getD false

theorem statedBy_of_decode {json : Json} {spec : AgentSpec} (decoded : decode json = .ok spec) :
    spec.StatedBy json := by
  unfold decode at decoded
  obtain ⟨fields, record, decoded⟩ := exists_ok_of_bind decoded
  obtain ⟨config, configRead, decoded⟩ := exists_ok_of_bind decoded
  obtain ⟨credentials, credentialsRead, decoded⟩ := exists_ok_of_bind decoded
  obtain ⟨image, imageRead, decoded⟩ := exists_ok_of_bind decoded
  obtain ⟨nodeSelector, selectorRead, decoded⟩ := exists_ok_of_bind decoded
  obtain ⟨port, portRead, decoded⟩ := exists_ok_of_bind decoded
  cases decoded
  have places : Decode.Places names fields json := Decode.places_of_record (by decide) record
  have faithful : Decode.Faithful decodeCredentials fun inner =>
      some (((inner.under ["enabled"] "enabled").bind Json.bool?).getD false) := by
    intro inner enabled read
    obtain ⟨fields, record, read⟩ := exists_ok_of_bind read
    obtain ⟨given, present, read⟩ := exists_ok_of_bind read
    cases read
    have places : Decode.Places ["enabled"] fields inner :=
      Decode.places_of_record (by decide) record
    rw [places.eq_of_present (by decide) Decode.faithful_boolean present]
  refine ⟨?image, ?port, ?config, ?nodeSelector, ?credentials⟩
  case image => exact places.eq_of_member (by decide) Decode.faithful_text rfl imageRead
  case port => exact places.eq_of_member (by decide) Decode.faithful_signed rfl portRead
  case config => rw [← places.eq_of_present (by decide) Decode.faithful_textMap configRead]
  case nodeSelector =>
    exact places.eq_of_member (by decide) Decode.faithful_textMap rfl selectorRead
  case credentials =>
    rw [places.eq_of_present (by decide) faithful credentialsRead]
    cases json.under names "credentials" <;> rfl

end AgentSpec

namespace ScannerSpec

def names : List String := ["namespace", "image", "config", "nodeSelector"]

structure StatedBy (json : Json) (spec : ScannerSpec) : Prop where
  ns : some spec.ns = (json.under names "namespace").bind Json.str?
  image : spec.image = (json.under names "image").bind Json.str?
  config : spec.config = ((json.under names "config").bind Json.textMap?).getD []
  nodeSelector : spec.nodeSelector = (json.under names "nodeSelector").bind Json.textMap?

theorem statedBy_of_decode {json : Json} {spec : ScannerSpec} (decoded : decode json = .ok spec) :
    spec.StatedBy json := by
  unfold decode at decoded
  obtain ⟨fields, record, decoded⟩ := exists_ok_of_bind decoded
  obtain ⟨config, configRead, decoded⟩ := exists_ok_of_bind decoded
  obtain ⟨image, imageRead, decoded⟩ := exists_ok_of_bind decoded
  obtain ⟨ns?, nsRead, decoded⟩ := exists_ok_of_bind decoded
  obtain ⟨nodeSelector, selectorRead, decoded⟩ := exists_ok_of_bind decoded
  obtain ⟨ns, required, decoded⟩ := exists_ok_of_bind decoded
  cases decoded
  have places : Decode.Places names fields json := Decode.places_of_record (by decide) record
  refine ⟨?ns, ?image, ?config, ?nodeSelector⟩
  case ns =>
    rw [← Decode.eq_some_of_require required]
    exact places.eq_of_present (by decide) Decode.faithful_text nsRead
  case image => exact places.eq_of_member (by decide) Decode.faithful_text rfl imageRead
  case config => rw [← places.eq_of_present (by decide) Decode.faithful_textMap configRead]
  case nodeSelector =>
    exact places.eq_of_member (by decide) Decode.faithful_textMap rfl selectorRead

end ScannerSpec

def Spec.StatedBy (json : Json) : Spec → Prop
  | .agent spec => spec.StatedBy json
  | .scanner spec => spec.StatedBy json

/-! ### Conditions -/

namespace Condition

def names : List String :=
  ["type", "status", "observedGeneration", "lastTransitionTime", "reason", "message"]

/-- A status is stated by its name, or by an object with that name and null. -/
structure StatedBy (json : Json) (c : Condition) : Prop where
  type : some c.type = (json.under names "type").bind Json.str?
  status : json.under names "status" = some (.str c.status.name) ∨
    json.under names "status" = some (.obj [(c.status.name, .null)])
  observedGeneration :
    c.observedGeneration = (json.under names "observedGeneration").bind Json.int?
  lastTransitionTime :
    c.lastTransitionTime = (json.under names "lastTransitionTime").bind Json.str?
  reason : c.reason = (json.under names "reason").bind Json.str?
  message : c.message = (json.under names "message").bind Json.str?

theorem name_of_ofName {text : String} {status : ConditionStatus}
    (named : ConditionStatus.ofName text = .ok status) : text = status.name := by
  unfold ConditionStatus.ofName at named
  split at named
  · next found =>
    cases named
    have same := List.find?_some found
    exact (of_decide_eq_true same).symm
  · cases named

theorem stated_of_decode_status {json : Json} {status : ConditionStatus}
    (decoded : ConditionStatus.decode json = .ok status) :
    json = .str status.name ∨ json = .obj [(status.name, .null)] := by
  unfold ConditionStatus.decode at decoded
  split at decoded
  · exact Or.inl (congrArg Json.str (name_of_ofName decoded))
  · exact Or.inr (congrArg (fun text => Json.obj [(text, .null)]) (name_of_ofName decoded))
  all_goals cases decoded

theorem statedBy_of_decode {json : Json} {c : Condition} (decoded : decode json = .ok c) :
    c.StatedBy json := by
  unfold decode at decoded
  obtain ⟨fields, record, decoded⟩ := exists_ok_of_bind decoded
  obtain ⟨time, timeRead, decoded⟩ := exists_ok_of_bind decoded
  obtain ⟨message, messageRead, decoded⟩ := exists_ok_of_bind decoded
  obtain ⟨generation, generationRead, decoded⟩ := exists_ok_of_bind decoded
  obtain ⟨reason, reasonRead, decoded⟩ := exists_ok_of_bind decoded
  obtain ⟨status?, statusRead, decoded⟩ := exists_ok_of_bind decoded
  obtain ⟨type?, typeRead, decoded⟩ := exists_ok_of_bind decoded
  obtain ⟨type, typeGiven, decoded⟩ := exists_ok_of_bind decoded
  obtain ⟨status, statusGiven, decoded⟩ := exists_ok_of_bind decoded
  cases decoded
  have places : Decode.Places names fields json := Decode.places_of_record (by decide) record
  refine ⟨?type, ?status, ?generation, ?time, ?reason, ?message⟩
  case type =>
    rw [← Decode.eq_some_of_require typeGiven]
    exact places.eq_of_present (by decide) Decode.faithful_text typeRead
  case status =>
    obtain rfl := Decode.eq_some_of_require statusGiven
    obtain ⟨given, found, decoded⟩ := Decode.exists_of_present statusRead
    rw [← places "status" (by decide), found, Option.some.injEq, Option.some.injEq]
    exact stated_of_decode_status decoded
  case generation =>
    exact places.eq_of_member (by decide) Decode.faithful_signed rfl generationRead
  case time => exact places.eq_of_member (by decide) Decode.faithful_text rfl timeRead
  case reason => exact places.eq_of_member (by decide) Decode.faithful_text rfl reasonRead
  case message => exact places.eq_of_member (by decide) Decode.faithful_text rfl messageRead

end Condition

/-! ### Instances -/

namespace Instance
variable {json : Json} {i : Instance} {name : String} {decodeSpec : Json → Decoded Spec}

def names : List String := ["metadata", "spec", "status"]

/-- The conditions in their order; a status without any has none. -/
def ConditionsStatedBy (json : Json) (conditions : List Condition) : Prop :=
  ∃ items, (json.under ["conditions"] "conditions").getD (.arr []) = .arr items ∧
    List.Forall₂ Condition.StatedBy items conditions

/-- A status that is absent or null is none. -/
structure StatedBy (json : Json) (i : Instance) : Prop where
  metadata : ∃ given, json.under names "metadata" = some given ∧ i.metadata = .ofJson given
  spec : ∃ given, json.under names "spec" = some given ∧ i.spec.StatedBy given
  status : match i.status with
    | none => ∀ given ∈ json.under names "status", given = .null
    | some conditions =>
      ∃ given, json.under names "status" = some given ∧ ConditionsStatedBy given conditions

theorem conditionsStatedBy_of_decode {conditions : List Condition}
    (decoded : decodeStatus json = .ok conditions) : ConditionsStatedBy json conditions := by
  obtain ⟨fields, record, decoded⟩ := exists_ok_of_bind decoded
  obtain ⟨stored, read, decoded⟩ := exists_ok_of_bind decoded
  cases decoded
  have places : Decode.Places ["conditions"] fields json :=
    Decode.places_of_record (by decide) record
  unfold ConditionsStatedBy
  rw [← places "conditions" (by decide)]
  cases stored with
  | none =>
    rw [Decode.absent_of_present read]
    exact ⟨[], rfl, .nil⟩
  | some stored =>
    obtain ⟨given, found, sequence⟩ := Decode.exists_of_present read
    obtain ⟨items, rfl, each⟩ := Decode.exists_items_of_sequence sequence
    rw [found]
    exact ⟨items, rfl, each.imp fun _ _ => Condition.statedBy_of_decode⟩

theorem statedBy_of_decodeParts {kind : Kind}
    (faithful : ∀ (json : Json) (i : Instance), decodeSpec json = .ok i.spec →
      i.kind = kind ∧ i.spec.StatedBy json)
    (decoded : decodeParts name decodeSpec json = .ok i) : i.kind = kind ∧ i.StatedBy json := by
  obtain ⟨fields, record, decoded⟩ := exists_ok_of_bind decoded
  obtain ⟨metadata?, metadataRead, decoded⟩ := exists_ok_of_bind decoded
  obtain ⟨spec?, specRead, decoded⟩ := exists_ok_of_bind decoded
  obtain ⟨status, statusRead, decoded⟩ := exists_ok_of_bind decoded
  obtain ⟨metadata, metadataGiven, decoded⟩ := exists_ok_of_bind decoded
  obtain ⟨spec, specGiven, decoded⟩ := exists_ok_of_bind decoded
  cases decoded
  obtain rfl := Decode.eq_some_of_require metadataGiven
  obtain rfl := Decode.eq_some_of_require specGiven
  have places : Decode.Places names fields json := Decode.places_of_record (by decide) record
  obtain ⟨given, found, specRead⟩ := Decode.exists_of_present specRead
  obtain ⟨sameKind, specStated⟩ := faithful given ⟨metadata, spec, status⟩ specRead
  refine ⟨sameKind, ?metadata, ⟨given, ?spec, specStated⟩, ?status⟩
  case metadata =>
    obtain ⟨given, found, read⟩ := Decode.exists_of_present metadataRead
    obtain ⟨_, _, read⟩ := exists_ok_of_bind read
    cases read
    exact ⟨given, (places "metadata" (by decide)).symm.trans found, rfl⟩
  case spec => exact (places "spec" (by decide)).symm.trans found
  case status =>
    rw [← places "status" (by decide)]
    cases status with
    | none => exact Decode.null_of_member statusRead
    | some conditions =>
      obtain ⟨given, found, read⟩ := Decode.exists_of_member statusRead
      exact ⟨given, found, conditionsStatedBy_of_decode read⟩

theorem statedBy_of_decodeAgent (decoded : decodeAgent json = .ok i) :
    i.kind = .nodeAgent ∧ i.StatedBy json := by
  refine statedBy_of_decodeParts ?_ decoded
  intro json i read
  obtain ⟨spec, decoded, same⟩ := exists_ok_of_map read
  rw [kind, ← same]
  exact ⟨rfl, AgentSpec.statedBy_of_decode decoded⟩

theorem statedBy_of_decodeScanner (decoded : decodeScanner json = .ok i) :
    i.kind = .nodeScanner ∧ i.StatedBy json := by
  refine statedBy_of_decodeParts ?_ decoded
  intro json i read
  obtain ⟨spec, decoded, same⟩ := exists_ok_of_map read
  rw [kind, ← same]
  exact ⟨rfl, ScannerSpec.statedBy_of_decode decoded⟩

end Instance
end AgentOperator
