import AgentOperator.Object.Metadata
import AgentOperator.Proofs.ConditionRoundTrip
import AgentOperator.Proofs.RecordShape
import AgentOperator.Proofs.RelaxedTime

/-!
Object metadata through its JSON form and back. What was read can be written, and reads as the same
metadata but for its times, which are cut to whole seconds; written again it is the same value.
-/
namespace AgentOperator

theorem Json.member?_objectSome {α : Type} {entries : List (String × Option Json)}
    (distinct : (entries.map (·.1)).Nodup) (key : String) (read : Json → Option α) :
    (objectSome entries).member? key read = (Fields.get? entries key).join.bind read := by
  rw [member?, get?_objectSome distinct]

namespace Timestamp

/-- A time that is written with four digits for its year. -/
structure Writable (t : Timestamp) : Prop where
  regular : t.Regular
  early : 0 ≤ t.utcYear
  late : t.utcYear ≤ 9999

theorem Writable.readRelaxed {t : Timestamp} (writable : t.Writable) :
    readRelaxed t.renderSeconds = .ok t.wholeSeconds :=
  readRelaxed_renderSeconds writable.regular writable.early writable.late

theorem Writable.check {t : Timestamp} (writable : t.Writable) :
    Shape.check .instant (encodeTime t) = .ok () := by
  rw [encodeTime, Shape.check, Shape.checkInstant, writable.readRelaxed]

theorem decodeTime?_encodeTime {time : Option Timestamp} (writable : ∀ t ∈ time, t.Writable) :
    (time.map encodeTime).bind decodeTime? = time.map wholeSeconds := by
  cases time with
  | none => rfl
  | some t =>
    have read := (writable t rfl).readRelaxed
    simp only [Option.map_some, Option.bind_some, decodeTime?, encodeTime, Json.str?, read]
    rfl

theorem regular_of_decodeTime? {json : Json} {t : Timestamp} (read : decodeTime? json = some t) :
    t.Regular := by
  obtain ⟨text, _, read⟩ := Option.bind_eq_some_iff.mp read
  cases same : readRelaxed text with
  | error error =>
    rw [same] at read
    cases read
  | ok time =>
    rw [same] at read
    cases read
    exact regular_of_readRelaxed same

end Timestamp

namespace OwnerReference

theorem check_encode (reference : OwnerReference) : shape.check reference.encode = .ok () := by
  refine Shape.check_objectSome (by decide) ?_
  refine .cons ⟨rfl, ?_⟩ (.cons ⟨rfl, ?_⟩ (.cons ⟨rfl, ?_⟩ (.cons ⟨rfl, ?_⟩ (.cons ⟨rfl, ?_⟩
    (.cons ⟨rfl, ?_⟩ .nil)))))
  · rintro _ ⟨⟩; rfl
  · exact .map fun _ _ => rfl
  · exact .map fun _ _ => rfl
  · rintro _ ⟨⟩; rfl
  · rintro _ ⟨⟩; rfl
  · rintro _ ⟨⟩; rfl

theorem ofJson_encode (reference : OwnerReference) : ofJson reference.encode = reference := by
  simp [ofJson, encode, Json.member?_objectSome, Json.str?]

end OwnerReference

namespace FieldOwnership

def wholeSeconds (o : FieldOwnership) : FieldOwnership :=
  { o with time := o.time.map Timestamp.wholeSeconds }

/-- The time can be written, and no fields are null. -/
structure Writable (o : FieldOwnership) : Prop where
  time : ∀ t ∈ o.time, t.Writable
  given : o.fields ≠ some .null

variable {o : FieldOwnership}

theorem Writable.check_encode (writable : o.Writable) : shape.check o.encode = .ok () := by
  refine Shape.check_objectSome (by decide) ?_
  refine .cons ⟨rfl, ?_⟩ (.cons ⟨rfl, ?_⟩ (.cons ⟨rfl, ?_⟩ (.cons ⟨rfl, ?_⟩ (.cons ⟨rfl, ?_⟩
    (.cons ⟨rfl, ?_⟩ (.cons ⟨rfl, ?_⟩ .nil))))))
  · exact .map fun _ _ => rfl
  · exact .map fun _ _ => rfl
  · exact fun json _ => by rw [Shape.check]
  · exact .map fun _ _ => rfl
  · exact .map fun _ _ => rfl
  · exact .map fun _ _ => rfl
  · exact .map fun t same => (writable.time t same).check

theorem Writable.ofJson_encode (writable : o.Writable) : ofJson o.encode = o.wholeSeconds := by
  have time := Timestamp.decodeTime?_encodeTime writable.time
  have given : o.fields.filter (fun fields => !decide (fields = .null)) = o.fields := by
    have notNull := writable.given
    cases same : o.fields with
    | none => rfl
    | some fields =>
      rw [same] at notNull
      simpa using notNull
  simp [ofJson, encode, Json.member?_objectSome, Json.get?_objectSome, time, given, wholeSeconds]

end FieldOwnership

namespace Metadata

def times (m : Metadata) : List Timestamp :=
  m.creationTimestamp.toList ++ m.deletionTimestamp.toList ++
    (m.managedFields.getD []).filterMap (·.time)

def wholeSeconds (m : Metadata) : Metadata :=
  { m with
    creationTimestamp := m.creationTimestamp.map Timestamp.wholeSeconds
    deletionTimestamp := m.deletionTimestamp.map Timestamp.wholeSeconds
    managedFields := m.managedFields.map (·.map FieldOwnership.wholeSeconds) }

/-- The metadata can be written so that it is accepted again. -/
structure Writable (m : Metadata) : Prop where
  generation : FitsStored m.generation
  gracePeriod : FitsStored m.deletionGracePeriodSeconds
  created : ∀ t ∈ m.creationTimestamp, t.Writable
  deleted : ∀ t ∈ m.deletionTimestamp, t.Writable
  owned : ∀ entries ∈ m.managedFields, ∀ o ∈ entries, o.Writable

variable {m : Metadata} {json : Json}

theorem check_int64 {value : Option Int} (fits : FitsStored value) :
    Shape.Passes .int64 (value.map .int) := by
  refine .map fun n same => ?_
  obtain ⟨low, high⟩ := fits n same
  rw [Shape.int64, Shape.check, Shape.checkInteger, if_pos ⟨low, by omega⟩]

theorem Writable.check_encode (writable : m.Writable) : shape.check m.encode = .ok () := by
  have text (value : Option String) : Shape.Passes .text (value.map .str) := .map fun _ _ => rfl
  have time {value : Option Timestamp} (each : ∀ t ∈ value, t.Writable) :
      Shape.Passes .instant (value.map encodeTime) := .map fun t same => (each t same).check
  have textMap (value : Option (Fields String)) : Shape.Passes .textMap (value.map .strMap) :=
    .map fun values _ => Shape.check_textMap values
  refine Shape.check_objectSome (by decide) ?_
  refine .cons ⟨rfl, textMap _⟩ (.cons ⟨rfl, time writable.created⟩
    (.cons ⟨rfl, check_int64 writable.gracePeriod⟩ (.cons ⟨rfl, time writable.deleted⟩
    (.cons ⟨rfl, .map fun values _ => Shape.check_texts values⟩ (.cons ⟨rfl, text _⟩
    (.cons ⟨rfl, check_int64 writable.generation⟩ (.cons ⟨rfl, textMap _⟩ (.cons ⟨rfl, ?_⟩
    (.cons ⟨rfl, text _⟩ (.cons ⟨rfl, text _⟩ (.cons ⟨rfl, ?_⟩ (.cons ⟨rfl, text _⟩
    (.cons ⟨rfl, text _⟩ (.cons ⟨rfl, text _⟩ .nil))))))))))))))
  · exact .map fun entries same =>
      Shape.check_sequence fun o member => (writable.owned entries same o member).check_encode
  · exact .map fun references _ =>
      Shape.check_sequence fun reference _ => reference.check_encode

theorem Writable.ofJson_encode (writable : m.Writable) : ofJson m.encode = m.wholeSeconds := by
  have created := Timestamp.decodeTime?_encodeTime writable.created
  have deleted := Timestamp.decodeTime?_encodeTime writable.deleted
  simp [ofJson, encode, Json.member?_objectSome, created, deleted, wholeSeconds]
  constructor
  · cases owned : m.managedFields with
    | none => rfl
    | some entries =>
      have each := List.map_congr_left fun o member =>
        (writable.owned entries owned o member).ofJson_encode
      simpa [Json.arr?, Function.comp_def] using each
  · cases m.ownerReferences with
    | none => rfl
    | some references => simp [Json.arr?, Function.comp_def, OwnerReference.ofJson_encode]

/-- Writing cuts times to whole seconds, so nothing is left to cut when it is done again. -/
theorem encode_wholeSeconds (m : Metadata) : m.wholeSeconds.encode = m.encode := by
  have time (t : Timestamp) : encodeTime t.wholeSeconds = encodeTime t := by
    rw [encodeTime, encodeTime, Timestamp.renderSeconds_wholeSeconds]
  have owned (o : FieldOwnership) : o.wholeSeconds.encode = o.encode := by
    simp [FieldOwnership.encode, FieldOwnership.wholeSeconds, Function.comp_def, time]
  simp [encode, wholeSeconds, Function.comp_def, time, owned]

theorem Writable.decode_encode (writable : m.Writable) : decode m.encode = .ok m.wholeSeconds := by
  rw [decode, writable.check_encode, ← writable.ofJson_encode]
  rfl

theorem fits_of_check {members : List (String × Shape)} {title name : String}
    (checked : Shape.check (.api title members) json = .ok ())
    (known : List.lookup name members = some .int64) :
    FitsStored (json.member? name Json.int?) := by
  intro n read
  obtain ⟨value, found, number⟩ := Option.bind_eq_some_iff.mp read
  cases value with
  | int m =>
    cases number
    rcases Shape.member_of_check checked known found with null | bounds
    · cases null
    · rw [Shape.int64, Shape.check, Shape.checkInteger] at bounds
      split at bounds
      · next inside => exact ⟨inside.1, by omega⟩
      · cases bounds
  | _ => cases number

theorem regular_of_member {name : String} {t : Timestamp}
    (read : t ∈ json.member? name decodeTime?) : t.Regular := by
  obtain ⟨value, _, read⟩ := Option.bind_eq_some_iff.mp read
  exact Timestamp.regular_of_decodeTime? read

theorem writable_of_decode (decoded : decode json = .ok m)
    (years : ∀ t ∈ m.times, 0 ≤ t.utcYear ∧ t.utcYear ≤ 9999) : m.Writable := by
  obtain ⟨_, checked, rest⟩ := exists_ok_of_bind decoded
  cases rest
  constructor
  · exact fits_of_check checked rfl
  · exact fits_of_check checked rfl
  · intro t created
    obtain ⟨early, late⟩ := years t (by simp [times, Option.mem_def.mp created])
    exact ⟨regular_of_member created, early, late⟩
  · intro t deleted
    obtain ⟨early, late⟩ := years t (by simp [times, Option.mem_def.mp deleted])
    exact ⟨regular_of_member deleted, early, late⟩
  · intro entries owned o member
    have inTimes (t : Timestamp) (told : t ∈ o.time) : t ∈ (ofJson json).times := by
      refine List.mem_append_right _ (List.mem_filterMap.mpr ⟨o, ?_, told⟩)
      rw [Option.mem_def.mp owned]
      exact member
    obtain ⟨items, _, rfl⟩ := Option.map_eq_some_iff.mp (Option.mem_def.mp owned)
    obtain ⟨item, _, rfl⟩ := List.mem_map.mp member
    constructor
    · intro t told
      obtain ⟨early, late⟩ := years t (inTimes t told)
      exact ⟨regular_of_member told, early, late⟩
    · intro null
      have kept := (Option.filter_eq_some_iff.mp null).2
      simp at kept

end Metadata
end AgentOperator
