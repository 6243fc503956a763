import AgentOperator.Proofs.CredentialDecision
import AgentOperator.Proofs.MetadataRoundTrip

/-!
The credential secret as a record. What is written into it is read out of it again: the token byte
by byte through Base64, whatever padding its length needs, and the expiration to the nanosecond, as
long as its year has four digits. Passing through JSON changes nothing about the object.
-/
namespace AgentOperator

namespace Text.Base64

theorem value?_digit {value : Nat} (small : value < 64) : value? (digit value) = some value := by
  have each : ∀ value ∈ List.range 64, value? (digit value) = some value := by decide
  exact each value (List.mem_range.mpr small)

theorem digit_ne_pad {value : Nat} (small : value < 64) : digit value ≠ '=' := by
  intro same
  have digit := value?_digit small
  rw [same] at digit
  cases digit

theorem decode?_group {a b c d : Char} (full : d ≠ '=') (rest : List Char) :
    decode? (a :: b :: c :: d :: rest) = (do
      let bits :=
        (((← value? a) * 64 + (← value? b)) * 64 + (← value? c)) * 64 + (← value? d)
      let tail ← decode? rest
      some ((bits / 65536).toUInt8 :: (bits / 256 % 256).toUInt8 :: (bits % 256).toUInt8 ::
        tail)) := by
  rw [decode?]
  · rintro rfl rfl rfl
    exact full rfl
  · rintro rfl rfl
    exact full rfl

theorem toUInt8_eq {byte : UInt8} {value : Nat} (same : value = byte.toNat) :
    value.toUInt8 = byte := by
  subst same
  exact UInt8.ofNat_toNat

theorem decode?_encode (bytes : List UInt8) : decode? (encode bytes) = some bytes := by
  fun_induction encode bytes with
  | case1 => rfl
  | case2 a bits =>
    have first := a.toNat_lt
    have whole : bits / 64 * 64 + bits % 64 = bits := by omega
    rw [decode?, value?_digit (by omega), value?_digit (by omega)]
    simp only [Option.bind_eq_bind, Option.bind_some, whole]
    rw [if_pos (by omega), toUInt8_eq (show bits / 16 = a.toNat by omega)]
  | case3 a b bits =>
    have first := a.toNat_lt
    have second := b.toNat_lt
    have whole : (bits / 4096 * 64 + bits / 64 % 64) * 64 + bits % 64 = bits := by omega
    rw [decode?, value?_digit (by omega), value?_digit (by omega), value?_digit (by omega)]
    · simp only [Option.bind_eq_bind, Option.bind_some, whole]
      rw [if_pos (by omega), toUInt8_eq (show bits / 1024 = a.toNat by omega),
        toUInt8_eq (show bits / 4 % 256 = b.toNat by omega)]
    · exact digit_ne_pad (by omega)
  | case4 a b c rest bits ih =>
    have first := a.toNat_lt
    have second := b.toNat_lt
    have third := c.toNat_lt
    have whole : ((bits / 262144 * 64 + bits / 4096 % 64) * 64 + bits / 64 % 64) * 64 + bits % 64 =
        bits := by omega
    rw [decode?_group (digit_ne_pad (by omega)), value?_digit (by omega), value?_digit (by omega),
      value?_digit (by omega), value?_digit (by omega), ih]
    simp only [Option.bind_eq_bind, Option.bind_some, whole]
    rw [toUInt8_eq (show bits / 65536 = a.toNat by omega),
      toUInt8_eq (show bits / 256 % 256 = b.toNat by omega),
      toUInt8_eq (show bits % 256 = c.toNat by omega)]

end Text.Base64

namespace Manifest
variable {b : Blueprint} {credential : Credential}

theorem data_credentialSecret (b : Blueprint) (credential : Credential) :
    (credentialSecret b credential).resource.object.data =
      [("data", .obj [("token", .str (Text.Base64.encodeText credential.token))]),
        ("type", .str "Opaque")] := by
  have listed : (credentialSecret b credential).resource.object.data =
      Fields.ofList [("data", .obj [("token", .str (Text.Base64.encodeText credential.token))]),
        ("type", .str "Opaque")] := rfl
  simp only [listed, Fields.ofList, List.foldl_cons, List.foldl_nil, Fields.insert]
  rw [if_neg (by decide), if_neg (by decide)]

theorem encode_credentialSecret (b : Blueprint) (credential : Credential) :
    (credentialSecret b credential).resource.object.encode = .obj [
      ("apiVersion", .str "v1"),
      ("data", .obj [("token", .str (Text.Base64.encodeText credential.token))]),
      ("kind", .str "Secret"),
      ("metadata", (credentialSecret b credential).metadata.encode),
      ("type", .str "Opaque")] := by
  have types : (credentialSecret b credential).resource.object.types = some ⟨"v1", "Secret"⟩ := rfl
  have metadata : (credentialSecret b credential).resource.object.metadata =
      (credentialSecret b credential).metadata := rfl
  unfold Object.encode
  rw [data_credentialSecret, types, metadata]
  simp (disch := decide) only [Fields.insert_cons_of_lt, Fields.insert_cons_of_not_lt]

theorem writable_credentialSecret (b : Blueprint) (credential : Credential) :
    (credentialSecret b credential).metadata.Writable := by
  constructor
  all_goals
    intro value given
    cases given

theorem decode_encode_credentialSecret (b : Blueprint) (credential : Credential) :
    Object.decode (credentialSecret b credential).resource.object.encode =
      .ok (credentialSecret b credential).resource.object := by
  have writable := writable_credentialSecret b credential
  have checks : Object.shape.check (credentialSecret b credential).resource.object.encode =
      .ok () := by
    rw [encode_credentialSecret, Object.shape, Shape.check]
    simp [Shape.checkMembers, List.lookup_cons, writable.check_encode]
    rfl
  rw [Object.decode, checks]
  show Except.ok (Object.ofJson _) = _
  rw [encode_credentialSecret]
  simp [Object.ofJson, Json.obj?, Json.get?, Object.takeTypes, writable.ofJson_encode]
  rfl

theorem token?_credentialSecret (b : Blueprint) (credential : Credential) :
    (credentialSecret b credential).resource.object.token? =
      some (Text.Base64.encodeText credential.token) := by
  rw [Object.token?, data_credentialSecret]
  rfl

/-- The object that is made of a secret is the one that its JSON form is read as, its token decodes
to the bytes of the token given, and its expiration is the instant given. -/
theorem secret_records_credential (b : Blueprint) (token : String) {t : Timestamp}
    (calm : t.isLeap = false) (early : 0 ≤ t.utcYear) (late : t.utcYear ≤ 9999) :
    let object := (credentialSecret b ⟨token, t⟩).resource.object
    Object.decode object.encode = .ok object ∧
      (∃ text, object.token? = some text ∧
        Text.Base64.decode? text.toList = some token.toUTF8.toList) ∧
      Expiry.recorded object.metadata.annotations = .ok t := by
  refine ⟨decode_encode_credentialSecret b _, ⟨_, token?_credentialSecret b _, ?_⟩, ?_⟩
  · rw [Text.Base64.encodeText, String.toList_ofList, Text.Base64.decode?_encode]
  · have regular : t.Regular := Or.inl (by simpa [Timestamp.isLeap] using calm)
    have record := Expiry.recorded_render regular
    rwa [if_pos ⟨early, late⟩] at record

def leapDay : Timestamp := ⟨1709251199, 999999999⟩

theorem leapDay_recorded :
    leapDay.isLeap = false ∧ 0 ≤ leapDay.utcYear ∧ leapDay.utcYear ≤ 9999 ∧
    let object :=
      (credentialSecret CredentialLoops.issuer.blueprint ⟨"jeton-été", leapDay⟩).resource.object
    Object.decode object.encode = .ok object ∧
      (∃ text, object.token? = some text ∧
        Text.Base64.decode? text.toList = some "jeton-été".toUTF8.toList) ∧
      Expiry.recorded object.metadata.annotations = .ok leapDay :=
  ⟨by decide, by decide, by decide,
    secret_records_credential CredentialLoops.issuer.blueprint "jeton-été"
      (by decide) (by decide) (by decide)⟩

end Manifest
end AgentOperator
