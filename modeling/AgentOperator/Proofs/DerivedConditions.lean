import AgentOperator.Condition.Rollout

/-!
What the derived conditions say. Each of the two required types is found in the sanitized list, so
it is set there and nothing is appended; a condition that was set says what was desired, whether it
was kept or replaced.
-/
namespace AgentOperator.Condition
variable {stored : List Condition} {existing desired a b : Condition}

theorem sameObservation_iff :
    a.sameObservation b = true ↔ a.observedGeneration = b.observedGeneration ∧
      a.status = b.status ∧ a.reason = b.reason ∧ a.message = b.message := by
  simp [sameObservation, and_assoc]

def Agrees (c desired : Condition) : Prop :=
  c.type = desired.type ∧ c.sameObservation desired = true

theorem Agrees.observedGeneration (agrees : a.Agrees b) :
    a.observedGeneration = b.observedGeneration :=
  (sameObservation_iff.mp agrees.2).1

theorem agrees_transitioned (now : String) (same : existing.type = desired.type) :
    (if existing.sameObservation desired then existing
      else transitioned existing desired now).Agrees desired := by
  split
  · next kept => exact ⟨same, kept⟩
  · exact ⟨rfl, sameObservation_iff.mpr ⟨rfl, rfl, rfl, rfl⟩⟩

theorem set_cons_of_type (desired : Condition) (now : String) (rest : List Condition)
    (same : existing.type = desired.type) :
    ∃ c, c.Agrees desired ∧ (set desired now (existing :: rest)).1 = c :: rest := by
  refine ⟨_, agrees_transitioned now same, ?_⟩
  rw [set, if_pos same]
  split <;> rfl

theorem set_cons_of_ne (now : String) (rest : List Condition)
    (different : existing.type ≠ desired.type) :
    (set desired now (existing :: rest)).1 = existing :: (set desired now rest).1 := by
  rw [set, if_neg different]

theorem type_of_getD {type : String} :
    ((stored.find? (·.type = type)).getD { type, status := .false }).type = type := by
  cases found : stored.find? (·.type = type) with
  | none => rfl
  | some c => simpa using List.find?_some found

theorem sanitize_eq (stored : List Condition) :
    ∃ reconciled available, sanitize stored = [reconciled, available] ∧
      reconciled.type = Conventions.reconciledType ∧ available.type = Conventions.availableType :=
  ⟨_, _, rfl, type_of_getD, type_of_getD⟩

theorem reconciledType_ne_availableType :
    Conventions.reconciledType ≠ Conventions.availableType := by decide

theorem derive_agrees (stored : List Condition) (generation : Option Int)
    (workload : Except StoreError Rollout) (passError : Option String) (now : String) :
    ∃ reconciled available,
      (derive stored generation workload passError now).1 = [reconciled, available] ∧
      reconciled.Agrees
        ((Verdict.reconciled passError).toCondition Conventions.reconciledType generation) ∧
      available.Agrees
        ((Verdict.available workload passError).toCondition Conventions.availableType
          generation) := by
  obtain ⟨oldReconciled, oldAvailable, sane, isReconciled, isAvailable⟩ := sanitize_eq stored
  obtain ⟨reconciled, agreesReconciled, first⟩ := set_cons_of_type
    ((Verdict.reconciled passError).toCondition Conventions.reconciledType generation) now
    [oldAvailable] isReconciled
  obtain ⟨available, agreesAvailable, second⟩ := set_cons_of_type
    ((Verdict.available workload passError).toCondition Conventions.availableType generation) now
    [] isAvailable
  refine ⟨reconciled, available, ?_, agreesReconciled, agreesAvailable⟩
  have different : reconciled.type ≠ Conventions.availableType := by
    rw [agreesReconciled.1]
    exact reconciledType_ne_availableType
  simp only [derive, sane, first]
  rw [set_cons_of_ne now _ different, second]

theorem types_derive (stored : List Condition) (generation : Option Int)
    (workload : Except StoreError Rollout) (passError : Option String) (now : String) :
    (derive stored generation workload passError now).1.map (·.type) = required := by
  obtain ⟨reconciled, available, same, agreesReconciled, agreesAvailable⟩ :=
    derive_agrees stored generation workload passError now
  rw [same, List.map_cons, List.map_cons, agreesReconciled.1, agreesAvailable.1]
  rfl

section
variable {generation : Option Int} {workload : Except StoreError Rollout}
  {passError : Option String} {now : String} {c : Condition}

theorem agrees_of_mem_derive
    (member : c ∈ (derive stored generation workload passError now).1) :
    c.Agrees ((Verdict.reconciled passError).toCondition Conventions.reconciledType generation) ∨
      c.Agrees ((Verdict.available workload passError).toCondition Conventions.availableType
        generation) := by
  obtain ⟨reconciled, available, same, agreesReconciled, agreesAvailable⟩ :=
    derive_agrees stored generation workload passError now
  rw [same] at member
  rcases List.mem_cons.mp member with rfl | last
  · exact Or.inl agreesReconciled
  · obtain rfl := List.mem_singleton.mp last
    exact Or.inr agreesAvailable

theorem observedGeneration_of_mem_derive
    (member : c ∈ (derive stored generation workload passError now).1) :
    c.observedGeneration = generation := by
  rcases agrees_of_mem_derive member with agrees | agrees <;> exact agrees.observedGeneration

theorem reconciled_of_mem_derive
    (member : c ∈ (derive stored generation workload passError now).1)
    (about : c.type = Conventions.reconciledType) : c.status = .true ↔ passError = none := by
  rcases agrees_of_mem_derive member with agrees | agrees
  · rw [(sameObservation_iff.mp agrees.2).2.1]
    cases passError <;> simp [Verdict.toCondition, Verdict.reconciled]
  · exact absurd (about.symm.trans agrees.1) reconciledType_ne_availableType

theorem available_of_mem_derive
    (member : c ∈ (derive stored generation workload passError now).1)
    (about : c.type = Conventions.availableType) :
    c.Agrees ((Verdict.available workload passError).toCondition Conventions.availableType
      generation) := by
  rcases agrees_of_mem_derive member with agrees | agrees
  · exact absurd (agrees.1.symm.trans about) reconciledType_ne_availableType
  · exact agrees

end

end AgentOperator.Condition
