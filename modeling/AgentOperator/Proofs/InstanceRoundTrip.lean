import AgentOperator.Proofs.InstanceReading
import AgentOperator.Proofs.MetadataRoundTrip

/-!
Instances through their JSON form and back. An instance that was accepted says what its JSON says,
can be written, is accepted again with the same specification and status, and is written the same
from then on. The conditions that are written as its status read as they are.
-/
namespace AgentOperator

theorem Json.exists_fields {json : Json} (object : ∃ fields, json = .obj fields) :
    ∃ fields : Fields Json, json = .obj fields ∧ ∀ key, fields.get? key = json.get? key := by
  obtain ⟨fields, rfl⟩ := object
  exact ⟨fields, rfl, fun _ => rfl⟩

namespace Decode
variable {α : Type} {fields : Fields Json} {name expected : String} {bound : Int}

theorem textMap_strMap (values : Fields String) : textMap (.strMap values) = .ok values := by
  show (values.mapValues Json.str).mapM _ = _
  unfold Fields.mapValues
  induction values with
  | nil => rfl
  | cons entry rest ih =>
    rw [List.map_cons, List.mapM_cons, ih]
    rfl

theorem optional_textMap (value : Option (Fields String)) :
    optional textMap (.ofOption .strMap value) = .ok value := by
  cases value with
  | none => rfl
  | some values =>
    show (textMap (.strMap values)).map some = _
    rw [textMap_strMap]
    rfl

theorem optional_signed {value : Option Int} (fits : ∀ n ∈ value, -bound ≤ n ∧ n < bound) :
    optional (signed bound expected) (.ofOption .int value) = .ok value := by
  cases value with
  | none => rfl
  | some n =>
    show (signed bound expected (.int n)).map some = _
    rw [signed, if_pos (fits n rfl)]
    rfl

theorem present_ok {decode : Json → Decoded α} {json : Json} {a : α}
    (found : fields.get? name = some json) (read : decode json = .ok a) :
    present fields name decode = .ok (some a) := by
  rw [present_of_get decode found, read]
  rfl

theorem member_ok {decode : Json → Decoded α} {json : Json} {value : Option α}
    (found : fields.get? name = some json) (read : optional decode json = .ok value) :
    member fields name decode = .ok value :=
  (member_of_get decode found).trans read

theorem bounds_of_member {value : Option Int}
    (read : member fields name (signed bound expected) = .ok value) :
    ∀ n ∈ value, -bound ≤ n ∧ n < bound := by
  rintro n rfl
  obtain ⟨json, _, read⟩ := exists_of_member read
  unfold signed at read
  split at read
  · split at read
    · next inside =>
      cases read
      exact inside
    · cases read
  · cases read

end Decode

theorem Condition.fits_of_decode {json : Json} {c : Condition} (decoded : decode json = .ok c) :
    FitsStored c.observedGeneration := by
  unfold decode at decoded
  obtain ⟨fields, _, decoded⟩ := exists_ok_of_bind decoded
  obtain ⟨time, _, decoded⟩ := exists_ok_of_bind decoded
  obtain ⟨message, _, decoded⟩ := exists_ok_of_bind decoded
  obtain ⟨generation, read, decoded⟩ := exists_ok_of_bind decoded
  obtain ⟨reason, _, decoded⟩ := exists_ok_of_bind decoded
  obtain ⟨status, _, decoded⟩ := exists_ok_of_bind decoded
  obtain ⟨type, _, decoded⟩ := exists_ok_of_bind decoded
  obtain ⟨type, _, decoded⟩ := exists_ok_of_bind decoded
  obtain ⟨status, _, decoded⟩ := exists_ok_of_bind decoded
  cases decoded
  exact Decode.bounds_of_member read

namespace AgentSpec

theorem port_of_decode {json : Json} {spec : AgentSpec} (decoded : decode json = .ok spec) :
    ∀ n ∈ spec.port, -2147483648 ≤ n ∧ n < 2147483648 := by
  unfold decode at decoded
  obtain ⟨fields, _, decoded⟩ := exists_ok_of_bind decoded
  obtain ⟨config, _, decoded⟩ := exists_ok_of_bind decoded
  obtain ⟨credentials, _, decoded⟩ := exists_ok_of_bind decoded
  obtain ⟨image, _, decoded⟩ := exists_ok_of_bind decoded
  obtain ⟨nodeSelector, _, decoded⟩ := exists_ok_of_bind decoded
  obtain ⟨port, read, decoded⟩ := exists_ok_of_bind decoded
  cases decoded
  exact Decode.bounds_of_member read

theorem decode_encode {spec : AgentSpec}
    (fits : ∀ n ∈ spec.port, -2147483648 ≤ n ∧ n < 2147483648) : decode spec.encode = .ok spec := by
  obtain ⟨fields, same, members⟩ := Json.exists_fields ⟨_, (rfl : spec.encode = .obj _)⟩
  have config : Decode.present fields "config" Decode.textMap = .ok (some spec.config) :=
    Decode.present_ok (by simp [members, encode, Json.get?_object]) (Decode.textMap_strMap _)
  have credentials : Decode.present fields "credentials" decodeCredentials =
      .ok (some spec.credentials) :=
    Decode.present_ok (by simp [members, encode, Json.get?_object]; rfl) rfl
  have image : Decode.member fields "image" Decode.text = .ok spec.image :=
    Decode.member_ok (by simp [members, encode, Json.get?_object]) (Decode.optional_text _)
  have nodeSelector : Decode.member fields "nodeSelector" Decode.textMap = .ok spec.nodeSelector :=
    Decode.member_ok (by simp [members, encode, Json.get?_object]) (Decode.optional_textMap _)
  have port : Decode.member fields "port" Decode.int32 = .ok spec.port :=
    Decode.member_ok (by simp [members, encode, Json.get?_object]) (Decode.optional_signed fits)
  rw [same, decode, bind_of_ok (show Decode.record _ _ (.obj fields) = .ok fields from rfl),
    bind_of_ok config, bind_of_ok credentials, bind_of_ok image, bind_of_ok nodeSelector,
    bind_of_ok port]
  rfl

end AgentSpec

theorem ScannerSpec.decode_encode (spec : ScannerSpec) : decode spec.encode = .ok spec := by
  obtain ⟨fields, same, members⟩ := Json.exists_fields ⟨_, (rfl : spec.encode = .obj _)⟩
  have config : Decode.present fields "config" Decode.textMap = .ok (some spec.config) :=
    Decode.present_ok (by simp [members, encode, Json.get?_object]) (Decode.textMap_strMap _)
  have image : Decode.member fields "image" Decode.text = .ok spec.image :=
    Decode.member_ok (by simp [members, encode, Json.get?_object]) (Decode.optional_text _)
  have ns : Decode.present fields "namespace" Decode.text = .ok (some spec.ns) :=
    Decode.present_ok (by simp [members, encode, Json.get?_object]; rfl) rfl
  have nodeSelector : Decode.member fields "nodeSelector" Decode.textMap = .ok spec.nodeSelector :=
    Decode.member_ok (by simp [members, encode, Json.get?_object]) (Decode.optional_textMap _)
  rw [same, decode, bind_of_ok (show Decode.record _ _ (.obj fields) = .ok fields from rfl),
    bind_of_ok config, bind_of_ok image, bind_of_ok ns, bind_of_ok nodeSelector]
  rfl

/-- A port is a number of 32 bits; everything else that a specification tells can be written. -/
def Spec.Writable : Spec → Prop
  | .agent spec => ∀ n ∈ spec.port, -2147483648 ≤ n ∧ n < 2147483648
  | .scanner _ => True

namespace Instance
variable {kind : Kind} {i : Instance} {json : Json} {conditions : List Condition} {name : String}
  {decodeSpec : Json → Decoded Spec}

theorem fits_of_decodeStatus (decoded : decodeStatus json = .ok conditions) :
    ∀ c ∈ conditions, FitsStored c.observedGeneration := by
  obtain ⟨fields, _, decoded⟩ := exists_ok_of_bind decoded
  obtain ⟨stored, read, decoded⟩ := exists_ok_of_bind decoded
  cases decoded
  intro c member
  cases stored with
  | none => cases member
  | some stored =>
    obtain ⟨list, _, sequence⟩ := Decode.exists_of_present read
    obtain ⟨items, _, each⟩ := Decode.exists_items_of_sequence sequence
    have fit : List.Forall₂ (fun c _ => FitsStored c.observedGeneration ∧ True) stored items :=
      each.flip.imp fun _ _ decoded => ⟨Condition.fits_of_decode decoded, True.intro⟩
    exact ((List.forall₂_and_left stored items).mp fit).1 c member

theorem decodeStatus_encodeStatus (fit : ∀ c ∈ conditions, FitsStored c.observedGeneration) :
    decodeStatus (encodeStatus conditions) = .ok conditions := by
  have read := Decode.sequence_map fun c member => Condition.decode_encode c (fit c member)
  have stored : Decode.present [("conditions", .arr (conditions.map Condition.encode))]
      "conditions" (Decode.sequence Condition.decode) = .ok (some conditions) :=
    Decode.present_ok (by simp) read
  show (Decode.present [("conditions", .arr (conditions.map Condition.encode))] "conditions"
    (Decode.sequence Condition.decode) >>= fun stored => .ok (stored.getD [])) = _
  rw [bind_of_ok stored]
  rfl

/-- The instance can be written so that it is accepted again. -/
structure Writable (i : Instance) : Prop where
  metadata : i.metadata.Writable
  spec : i.spec.Writable
  conditions : ∀ conditions ∈ i.status, ∀ c ∈ conditions, FitsStored c.observedGeneration

theorem writable_of_decodeParts
    (lawful : ∀ json spec, decodeSpec json = .ok spec → spec.Writable)
    (decoded : decodeParts name decodeSpec json = .ok i)
    (years : ∀ t ∈ i.metadata.times, 0 ≤ t.utcYear ∧ t.utcYear ≤ 9999) : i.Writable := by
  obtain ⟨fields, _, decoded⟩ := exists_ok_of_bind decoded
  obtain ⟨metadata?, metadataRead, decoded⟩ := exists_ok_of_bind decoded
  obtain ⟨spec?, specRead, decoded⟩ := exists_ok_of_bind decoded
  obtain ⟨status, statusRead, decoded⟩ := exists_ok_of_bind decoded
  obtain ⟨metadata, metadataGiven, decoded⟩ := exists_ok_of_bind decoded
  obtain ⟨spec, specGiven, decoded⟩ := exists_ok_of_bind decoded
  cases decoded
  obtain rfl := Decode.eq_some_of_require metadataGiven
  obtain rfl := Decode.eq_some_of_require specGiven
  obtain ⟨_, _, metadataRead⟩ := Decode.exists_of_present metadataRead
  obtain ⟨_, _, specRead⟩ := Decode.exists_of_present specRead
  refine ⟨Metadata.writable_of_decode metadataRead years, lawful _ spec specRead, ?_⟩
  rintro conditions rfl
  obtain ⟨_, _, read⟩ := Decode.exists_of_member statusRead
  exact fits_of_decodeStatus read

def wholeSeconds (i : Instance) : Instance := { i with metadata := i.metadata.wholeSeconds }

theorem encode_wholeSeconds (i : Instance) : i.wholeSeconds.encode = i.encode := by
  unfold encode
  show Json.objectSome [_, _, ("metadata", some i.metadata.wholeSeconds.encode), _, _] = _
  rw [Metadata.encode_wholeSeconds]
  rfl

theorem decodeParts_encode (writable : i.Writable)
    (specRead : decodeSpec i.encodeSpec = .ok i.spec) :
    decodeParts name decodeSpec i.encode = .ok i.wholeSeconds := by
  obtain ⟨fields, same, members⟩ := Json.exists_fields ⟨_, (rfl : i.encode = .obj _)⟩
  have metadata : Decode.present fields "metadata" Metadata.decode =
      .ok (some i.metadata.wholeSeconds) :=
    Decode.present_ok (by simp [members, encode, Json.get?_objectSome])
      writable.metadata.decode_encode
  have spec : Decode.present fields "spec" decodeSpec = .ok (some i.spec) :=
    Decode.present_ok (by simp [members, encode, Json.get?_objectSome]) specRead
  have status : Decode.member fields "status" decodeStatus = .ok i.status := by
    have found : fields.get? "status" = i.status.map encodeStatus := by
      simp [members, encode, Json.get?_objectSome]
    cases stored : i.status with
    | none =>
      rw [stored] at found
      rw [Decode.member, found]
      rfl
    | some conditions =>
      rw [stored] at found
      refine Decode.member_ok found ?_
      show (decodeStatus (encodeStatus conditions)).map some = _
      rw [decodeStatus_encodeStatus (writable.conditions conditions stored)]
      rfl
  rw [same, decodeParts, bind_of_ok (show Decode.record _ _ (.obj fields) = .ok fields from rfl),
    bind_of_ok metadata, bind_of_ok spec, bind_of_ok status]
  rfl

/-- Reading and writing instances of a kind do not drift. What is accepted is of the kind and says
what its JSON says; it is accepted again as the same but for the fractions of its times, and is
written the same from then on. Nothing that can be written is refused. -/
structure Stable (kind : Kind) (decode : Json → Decoded Instance) : Prop where
  stated : ∀ (json : Json) (i : Instance), decode json = .ok i → i.kind = kind ∧ i.StatedBy json
  again : ∀ (json : Json) (i : Instance), decode json = .ok i →
    (∀ t ∈ i.metadata.times, 0 ≤ t.utcYear ∧ t.utcYear ≤ 9999) →
      ∃ j, decode i.encode = .ok j ∧ j.spec = i.spec ∧ j.status = i.status ∧ j.encode = i.encode
  accepts : ∀ i : Instance, i.kind = kind → i.Writable → decode i.encode = .ok i.wholeSeconds

theorem again_of_accepts {decode : Json → Decoded Instance}
    (accepts : i.Writable → decode i.encode = .ok i.wholeSeconds) (writable : i.Writable) :
    ∃ j, decode i.encode = .ok j ∧ j.spec = i.spec ∧ j.status = i.status ∧ j.encode = i.encode :=
  ⟨i.wholeSeconds, accepts writable, rfl, rfl, i.encode_wholeSeconds⟩

theorem stable_decodeAgent : Stable .nodeAgent decodeAgent := by
  have lawful (json : Json) (spec : Spec)
      (read : (AgentSpec.decode json).map Spec.agent = .ok spec) : spec.Writable := by
    obtain ⟨spec, decoded, rfl⟩ := exists_ok_of_map read
    exact AgentSpec.port_of_decode decoded
  have accepts (i : Instance) (kind : i.kind = .nodeAgent) (writable : i.Writable) :
      decodeAgent i.encode = .ok i.wholeSeconds := by
    refine decodeParts_encode writable ?_
    obtain ⟨metadata, spec | spec, status⟩ := i
    · show (AgentSpec.decode spec.encode).map Spec.agent = _
      rw [AgentSpec.decode_encode writable.spec]
      rfl
    · cases kind
  exact ⟨fun json i => statedBy_of_decodeAgent, fun json i decoded years =>
    again_of_accepts (accepts i (statedBy_of_decodeAgent decoded).1)
      (writable_of_decodeParts lawful decoded years), accepts⟩

theorem stable_decodeScanner : Stable .nodeScanner decodeScanner := by
  have lawful (json : Json) (spec : Spec)
      (read : (ScannerSpec.decode json).map Spec.scanner = .ok spec) : spec.Writable := by
    obtain ⟨spec, _, rfl⟩ := exists_ok_of_map read
    exact True.intro
  have accepts (i : Instance) (kind : i.kind = .nodeScanner) (writable : i.Writable) :
      decodeScanner i.encode = .ok i.wholeSeconds := by
    refine decodeParts_encode writable ?_
    obtain ⟨metadata, spec | spec, status⟩ := i
    · cases kind
    · show (ScannerSpec.decode spec.encode).map Spec.scanner = _
      rw [ScannerSpec.decode_encode]
      rfl
  exact ⟨fun json i => statedBy_of_decodeScanner, fun json i decoded years =>
    again_of_accepts (accepts i (statedBy_of_decodeScanner decoded).1)
      (writable_of_decodeParts lawful decoded years), accepts⟩

/-- Encoding and decoding do not drift, and conditions are read from the status as they were
written. -/
theorem encoding_stable : Stable .nodeAgent decodeAgent ∧ Stable .nodeScanner decodeScanner ∧
    ∀ (object : Object) (conditions : List Condition),
      (∀ c ∈ conditions, FitsStored c.observedGeneration) →
        StatusWriter.storedConditions (object.withStatus (some (encodeStatus conditions))) =
          conditions :=
  ⟨stable_decodeAgent, stable_decodeScanner,
    fun object _ fit => StatusWriter.storedConditions_withStatus object fit⟩

/-- An agent as it is sent, with a time in another zone, with null for what is not given, and with
the conditions of an earlier pass. -/
def sentAgent : Json := .obj [
  ("metadata", .obj [
    ("creationTimestamp", .str "2026-10-16T14:00:00.5+02:00"), ("generation", .int 3),
    ("name", .str "telemetry"), ("namespace", .null)]),
  ("spec", .obj [("image", .null), ("port", .int 9200)]),
  ("status", .obj [("conditions", .arr [.obj [
    ("type", .str "Reconciled"), ("status", .str "False"), ("observedGeneration", .int 2),
    ("lastTransitionTime", .null), ("reason", .str "Conflict")]])])]

def receivedAgent : Instance :=
  { metadata :=
      { name := some "telemetry", generation := some 3
        creationTimestamp := some ⟨1792152000, 500000000⟩ }
    spec := .agent { port := some 9200 }
    status := some [⟨"Reconciled", .false, some 2, none, some "Conflict", none⟩] }

def sentScanner : Json := .arr [
  .obj [("name", .str "cis"), ("uid", .str "5d1e")],
  .obj [("namespace", .str "scanning"), ("config", .obj [("profile", .str "level1")])]]

def receivedScanner : Instance :=
  { metadata := { name := some "cis", uid := some "5d1e" }
    spec := .scanner { ns := "scanning", config := [("profile", "level1")] } }

theorem receivedAgent_encoding_stable :
    (decodeAgent sentAgent = .ok receivedAgent ∧ receivedAgent.StatedBy sentAgent ∧
      (∀ t ∈ receivedAgent.metadata.times, 0 ≤ t.utcYear ∧ t.utcYear ≤ 9999) ∧
      ∃ j, decodeAgent receivedAgent.encode = .ok j ∧ j.spec = receivedAgent.spec ∧
        j.status = receivedAgent.status ∧ j.encode = receivedAgent.encode) ∧
    (decodeScanner sentScanner = .ok receivedScanner ∧ receivedScanner.StatedBy sentScanner ∧
      receivedScanner.Writable ∧
      decodeScanner receivedScanner.encode = .ok receivedScanner.wholeSeconds) ∧
    ∀ object : Object, StatusWriter.storedConditions (object.withStatus (some (encodeStatus
      [⟨"Reconciled", .false, some 2, none, some "Conflict", none⟩]))) =
        [⟨"Reconciled", .false, some 2, none, some "Conflict", none⟩] := by
  have agentRead : decodeAgent sentAgent = .ok receivedAgent := by decide +kernel
  have scannerRead : decodeScanner sentScanner = .ok receivedScanner := by decide +kernel
  have years : ∀ t ∈ receivedAgent.metadata.times, 0 ≤ t.utcYear ∧ t.utcYear ≤ 9999 := by decide
  have fit : ∀ c ∈ receivedAgent.status.getD [], FitsStored c.observedGeneration := by
    intro c member
    rw [List.mem_singleton.mp member]
    rintro g ⟨⟩
    decide
  have writable : receivedScanner.Writable := by
    refine ⟨⟨?_, ?_, ?_, ?_, ?_⟩, True.intro, ?_⟩ <;> rintro _ ⟨⟩
  refine ⟨⟨agentRead, (encoding_stable.1.stated sentAgent receivedAgent agentRead).2, years,
    encoding_stable.1.again sentAgent receivedAgent agentRead years⟩, ⟨scannerRead,
    (encoding_stable.2.1.stated sentScanner receivedScanner scannerRead).2, writable,
    encoding_stable.2.1.accepts receivedScanner rfl writable⟩, ?_⟩
  exact fun object => encoding_stable.2.2 object _ fit

end Instance
end AgentOperator
