import AgentOperator.Proofs.DerivedConditions
import AgentOperator.Proofs.ReconciledCondition

/-!
Conditions through the store and back. What is written for an instance reads as the same conditions,
as long as their generation fits the stored form; and conditions that were derived once are not
derived anew from the same observations, whatever the time. So a status that was written once is
left alone until something is observed that it does not say.
-/
namespace AgentOperator

/-- The generation fits the 64 bits it is stored in. -/
def FitsStored (generation : Option Int) : Prop :=
  ∀ g, generation = some g → -9223372036854775808 ≤ g ∧ g < 9223372036854775808

namespace Decode
variable {α : Type} {fields : Fields Json} {name : String} {json : Json}

theorem present_of_get (decode : Json → Decoded α) (found : fields.get? name = some json) :
    present fields name decode = (decode json).map some := by
  simp [present, found]

theorem member_of_get (decode : Json → Decoded α) (found : fields.get? name = some json) :
    member fields name decode = optional decode json := by
  simp [member, found]

theorem optional_text (value : Option String) :
    optional text (.ofOption .str value) = .ok value := by
  cases value <;> rfl

theorem optional_int64 {value : Option Int} (fits : FitsStored value) :
    optional int64 (.ofOption .int value) = .ok value := by
  cases value with
  | none => rfl
  | some g =>
    obtain ⟨low, high⟩ := fits g rfl
    show (signed 9223372036854775808 "i64" (.int g)).map some = _
    rw [signed, if_pos ⟨low, high⟩]
    rfl

theorem sequence_map {encode : α → Json} {decode : Json → Decoded α} {items : List α}
    (lawful : ∀ item ∈ items, decode (encode item) = .ok item) :
    sequence decode (.arr (items.map encode)) = .ok items := by
  show (items.map encode).mapM decode = _
  induction items with
  | nil => rfl
  | cons item rest ih =>
    rw [List.map_cons, List.mapM_cons, lawful item List.mem_cons_self,
      ih fun other member => lawful other (List.mem_cons_of_mem _ member)]
    rfl

end Decode

theorem ConditionStatus.decode_name (status : ConditionStatus) :
    decode (.str status.name) = .ok status := by
  show ofName status.name = _
  cases status <;> simp [ofName, all, name]

namespace Condition
variable {stored : List Condition} {generation : Option Int}
  {workload : Except StoreError Rollout} {passError : Option String} {now : String}

theorem decode_encode (c : Condition) (fits : FitsStored c.observedGeneration) :
    decode c.encode = .ok c := by
  obtain ⟨fields, same⟩ : ∃ fields : Fields Json, c.encode = .obj fields := ⟨_, rfl⟩
  have at_ (key : String) : Fields.get? fields key = c.encode.get? key := by
    rw [same]
    rfl
  have type := at_ "type"
  have status := at_ "status"
  have generation := at_ "observedGeneration"
  have time := at_ "lastTransitionTime"
  have reason := at_ "reason"
  have message := at_ "message"
  simp [encode, Json.get?_object] at type status generation time reason message
  rw [same]
  unfold decode
  show (do
    let lastTransitionTime ← Decode.member fields "lastTransitionTime" Decode.text
    let message ← Decode.member fields "message" Decode.text
    let observedGeneration ← Decode.member fields "observedGeneration" Decode.int64
    let reason ← Decode.member fields "reason" Decode.text
    let status ← Decode.present fields "status" ConditionStatus.decode
    let type ← Decode.present fields "type" Decode.text
    let type ← Decode.require "type" type
    let status ← Decode.require "status" status
    return ({ type, status, observedGeneration, lastTransitionTime, reason, message }
      : Condition)) = _
  rw [Decode.member_of_get _ time, Decode.member_of_get _ message,
    Decode.member_of_get _ generation, Decode.member_of_get _ reason,
    Decode.present_of_get _ status, Decode.present_of_get _ type, Decode.optional_text,
    Decode.optional_text, Decode.optional_text, Decode.optional_int64 fits,
    ConditionStatus.decode_name]
  rfl

theorem sanitize_of_types {reconciled available : Condition}
    (isReconciled : reconciled.type = Conventions.reconciledType)
    (isAvailable : available.type = Conventions.availableType) :
    sanitize [reconciled, available] = [reconciled, available] := by
  have different : Conventions.reconciledType ≠ Conventions.availableType := by decide
  simp [sanitize, required, isReconciled, isAvailable, different]

/-- The stored conditions are left alone exactly if they are the two required ones and say what is
observed; the time has no part in it. -/
theorem derive_unchanged_iff :
    (derive stored generation workload passError now).2 = false ↔
      ∃ reconciled available, stored = [reconciled, available] ∧
        reconciled.Agrees
          ((Verdict.reconciled passError).toCondition Conventions.reconciledType generation) ∧
        available.Agrees
          ((Verdict.available workload passError).toCondition Conventions.availableType
            generation) := by
  let wantReconciled :=
    (Verdict.reconciled passError).toCondition Conventions.reconciledType generation
  let wantAvailable :=
    (Verdict.available workload passError).toCondition Conventions.availableType generation
  have different : wantReconciled.type ≠ wantAvailable.type := by
    show Conventions.reconciledType ≠ Conventions.availableType
    decide
  constructor
  · intro unchanged
    obtain ⟨reconciled, available, sane, isReconciled, isAvailable⟩ := sanitize_eq stored
    have sameReconciled : reconciled.type = wantReconciled.type := isReconciled
    have sameAvailable : available.type = wantAvailable.type := isAvailable
    simp only [derive, sane, Bool.or_eq_false_iff, decide_eq_false_iff_not, ne_eq,
      Decidable.not_not] at unchanged
    obtain ⟨⟨kept, first⟩, second⟩ := unchanged
    have saysReconciled : reconciled.sameObservation wantReconciled := by
      rw [set, if_pos sameReconciled] at first
      split at first
      · assumption
      · cases first
    have saysAvailable : available.sameObservation wantAvailable := by
      rw [set, if_pos sameReconciled, if_pos saysReconciled, set,
        if_neg (sameReconciled ▸ different), set, if_pos sameAvailable] at second
      dsimp only at second
      split at second
      · assumption
      · cases second
    exact ⟨reconciled, available, kept.symm, ⟨isReconciled, saysReconciled⟩,
      isAvailable, saysAvailable⟩
  · intro again
    obtain ⟨reconciled, available, rfl, agreesReconciled, agreesAvailable⟩ := again
    have sameReconciled : reconciled.type = wantReconciled.type := agreesReconciled.1
    have sameAvailable : available.type = wantAvailable.type := agreesAvailable.1
    simp only [derive, sanitize_of_types agreesReconciled.1 agreesAvailable.1]
    rw [set, if_pos sameReconciled, if_pos agreesReconciled.2, set,
      if_neg (sameReconciled ▸ different), set, if_pos sameAvailable, if_pos agreesAvailable.2]
    simp

theorem derive_unchanged_later (unchanged :
    (derive stored generation workload passError now).2 = false) (later : String) :
    (derive stored generation workload passError later).2 = false := by
  rw [derive_unchanged_iff] at unchanged ⊢
  exact unchanged

theorem derive_derived (stored : List Condition) (generation : Option Int)
    (workload : Except StoreError Rollout) (passError : Option String) (now later : String) :
    (derive (derive stored generation workload passError now).1 generation workload passError
      later).2 = false := by
  obtain ⟨reconciled, available, same, agreesReconciled, agreesAvailable⟩ :=
    derive_agrees stored generation workload passError now
  exact derive_unchanged_iff.mpr ⟨reconciled, available, same, agreesReconciled, agreesAvailable⟩

end Condition

theorem StatusWriter.storedConditions_withStatus (object : Object) {conditions : List Condition}
    (fit : ∀ c ∈ conditions, FitsStored c.observedGeneration) :
    storedConditions (object.withStatus (some (Instance.encodeStatus conditions))) =
      conditions := by
  have written : (Instance.encodeStatus conditions).get? "conditions" =
      some (.arr (conditions.map Condition.encode)) := by
    simp [Instance.encodeStatus, Json.get?_object]
  have read := Decode.sequence_map fun c member => Condition.decode_encode c (fit c member)
  unfold storedConditions
  rw [Object.status?_withStatus, Option.bind_some, written, Option.map_some, read]

end AgentOperator
