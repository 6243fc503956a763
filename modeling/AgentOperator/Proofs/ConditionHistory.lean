import AgentOperator.Proofs.ConditionRoundTrip

/-!
Conditions over time. A derivation settles each required type by itself: the first stored condition
of the type is kept if it says what is observed, and otherwise replaced. So its flag tells exactly
whether the list has changed, and over any run of derivations the transition time of a condition is
the time of its last change of status.
-/
namespace AgentOperator.Condition
variable {stored : List Condition} {generation : Option Int}
  {workload : Except StoreError Rollout} {passError : Option String} {now type : String}

def first (stored : List Condition) (type : String) : Condition :=
  (stored.find? (·.type = type)).getD { type, status := .false }

theorem type_first (stored : List Condition) (type : String) : (first stored type).type = type :=
  type_of_getD

def settled (stored : List Condition) (desired : Condition) (now : String) : Condition :=
  if (first stored desired.type).sameObservation desired then first stored desired.type
  else transitioned (first stored desired.type) desired now

theorem type_settled (stored : List Condition) (desired : Condition) (now : String) :
    (settled stored desired now).type = desired.type :=
  (agrees_transitioned now (type_first stored desired.type)).1

theorem settled_of_agrees {c desired : Condition} (agrees : c.Agrees desired)
    (present : first stored desired.type = c) (now : String) : settled stored desired now = c := by
  rw [settled, present, if_pos agrees.2]

theorem set_cons_self {existing desired : Condition} (same : existing.type = desired.type)
    (now : String) (rest : List Condition) :
    (set desired now (existing :: rest)).1 =
      (if existing.sameObservation desired then existing else transitioned existing desired now) ::
        rest := by
  rw [set, if_pos same]
  split <;> rfl

theorem derive_eq (stored : List Condition) (generation : Option Int)
    (workload : Except StoreError Rollout) (passError : Option String) (now : String) :
    (derive stored generation workload passError now).1 =
      [settled stored
          ((Verdict.reconciled passError).toCondition Conventions.reconciledType generation) now,
        settled stored
          ((Verdict.available workload passError).toCondition Conventions.availableType generation)
          now] := by
  have different : Conventions.reconciledType ≠ Conventions.availableType := by decide
  have sane : sanitize stored =
      [first stored Conventions.reconciledType, first stored Conventions.availableType] := rfl
  let wantReconciled :=
    (Verdict.reconciled passError).toCondition Conventions.reconciledType generation
  let wantAvailable :=
    (Verdict.available workload passError).toCondition Conventions.availableType generation
  have reconciled : (set wantReconciled now [first stored Conventions.reconciledType,
      first stored Conventions.availableType]).1 =
      [settled stored wantReconciled now, first stored Conventions.availableType] :=
    set_cons_self (type_first ..) now _
  have available : (set wantAvailable now [first stored Conventions.availableType]).1 =
      [settled stored wantAvailable now] := set_cons_self (type_first ..) now _
  have skipped : (settled stored wantReconciled now).type ≠ wantAvailable.type := by
    rw [type_settled]
    exact different
  unfold derive
  dsimp only
  rw [sane, reconciled]
  exact (set_cons_of_ne now _ skipped).trans (congrArg _ available)

theorem derive_of_unchanged
    (unchanged : (derive stored generation workload passError now).2 = false) :
    (derive stored generation workload passError now).1 = stored := by
  obtain ⟨reconciled, available, rfl, agreesReconciled, agreesAvailable⟩ :=
    derive_unchanged_iff.mp unchanged
  have different : Conventions.reconciledType ≠ Conventions.availableType := by decide
  have isReconciled : reconciled.type = Conventions.reconciledType := agreesReconciled.1
  have isAvailable : available.type = Conventions.availableType := agreesAvailable.1
  rw [derive_eq, settled_of_agrees agreesReconciled, settled_of_agrees agreesAvailable]
  · simp [first, Verdict.toCondition, isReconciled, isAvailable, different]
  · simp [first, Verdict.toCondition, isReconciled]

theorem changed_iff : (derive stored generation workload passError now).2 = true ↔
    (derive stored generation workload passError now).1 ≠ stored := by
  constructor
  · intro changed same
    have again := derive_derived stored generation workload passError now now
    rw [same, changed] at again
    cases again
  · intro differs
    cases flag : (derive stored generation workload passError now).2 with
    | true => rfl
    | false => exact absurd (derive_of_unchanged flag) differs

theorem status_ne_degraded (workload : Except StoreError Rollout) :
    (Verdict.ofWorkload workload).status ≠ .degraded := by
  unfold Verdict.ofWorkload Rollout.verdict
  repeat' split
  all_goals nofun

theorem degraded_iff : (Verdict.available workload passError).status = .degraded ↔
    passError ≠ none := by
  cases passError with
  | none => simpa [Verdict.available] using status_ne_degraded workload
  | some error => simp [Verdict.available]

/-- A derivation leaves one condition of each required type, in their order and for the given
generation, that together say how the pass went; it tells whether that is a change, and it changes
nothing when it is repeated. -/
theorem derive_restores (stored : List Condition) (generation : Option Int)
    (workload : Except StoreError Rollout) (passError : Option String) (now : String) :
    (∃ reconciled available,
      (derive stored generation workload passError now).1 = [reconciled, available] ∧
      reconciled.type = Conventions.reconciledType ∧
      available.type = Conventions.availableType ∧
      reconciled.observedGeneration = generation ∧ available.observedGeneration = generation ∧
      (reconciled.status = .true ↔ passError = none) ∧
      (reconciled.status = .false ↔ passError ≠ none) ∧
      (available.status = .degraded ↔ passError ≠ none) ∧
      ¬ (available.status = .true ∧ reconciled.status = .false)) ∧
    ((derive stored generation workload passError now).2 = true ↔
      (derive stored generation workload passError now).1 ≠ stored) ∧
    ∀ later, derive (derive stored generation workload passError now).1 generation workload
        passError later = ((derive stored generation workload passError now).1, false) := by
  refine ⟨?_, changed_iff, ?_⟩
  · obtain ⟨reconciled, available, same, agreesReconciled, agreesAvailable⟩ :=
      derive_agrees stored generation workload passError now
    have succeeded : reconciled.status = (Verdict.reconciled passError).status :=
      (sameObservation_iff.mp agreesReconciled.2).2.1
    have serves : available.status = (Verdict.available workload passError).status :=
      (sameObservation_iff.mp agreesAvailable.2).2.1
    have degrades : available.status = .degraded ↔ passError ≠ none := by
      rw [serves]
      exact degraded_iff
    refine ⟨reconciled, available, same, agreesReconciled.1, agreesAvailable.1,
      agreesReconciled.observedGeneration, agreesAvailable.observedGeneration, ?_, ?_, degrades, ?_⟩
    · rw [succeeded]
      cases passError <;> simp [Verdict.reconciled]
    · rw [succeeded]
      cases passError <;> simp [Verdict.reconciled]
    · rintro ⟨up, down⟩
      have failed : passError ≠ none := by
        rintro rfl
        rw [succeeded] at down
        cases down
      rw [degrades.mpr failed] at up
      cases up
  · intro later
    have unchanged := derive_derived stored generation workload passError now later
    exact Prod.ext (derive_of_unchanged unchanged) unchanged

/-! ### Runs of derivations -/

structure Derivation where
  generation : Option Int
  workload : Except StoreError Rollout
  passError : Option String
  now : String

def afterAll (stored : List Condition) (steps : List Derivation) : List Condition :=
  steps.foldl (fun stored d => (derive stored d.generation d.workload d.passError d.now).1) stored

def statusOf (type : String) (stored : List Condition) : Option ConditionStatus :=
  (stored.find? (·.type = type)).map (·.status)

def timeOf (type : String) (stored : List Condition) : Option String :=
  (stored.find? (·.type = type)).bind (·.lastTransitionTime)

/-- The times of the derivations that gave the type another status than it had, in their order. -/
def shiftTimes (type : String) : List Condition → List Derivation → List String
  | _, [] => []
  | stored, d :: rest =>
    if statusOf type (afterAll stored [d]) = statusOf type stored then
      shiftTimes type (afterAll stored [d]) rest
    else d.now :: shiftTimes type (afterAll stored [d]) rest

def Timed (type : String) (stored : List Condition) : Prop :=
  ∀ c, stored.find? (·.type = type) = some c → c.lastTransitionTime.isSome

theorem exists_settled (isRequired : type ∈ required) (stored : List Condition) (d : Derivation) :
    ∃ desired, desired.type = type ∧ desired.reason ≠ none ∧
      (afterAll stored [d]).find? (·.type = type) = some (settled stored desired d.now) := by
  have different : Conventions.reconciledType ≠ Conventions.availableType := by decide
  have result : afterAll stored [d] = _ :=
    derive_eq stored d.generation d.workload d.passError d.now
  rw [result]
  simp only [required, List.mem_cons, List.not_mem_nil, or_false] at isRequired
  rcases isRequired with rfl | rfl
  · refine ⟨_, rfl, ?_, List.find?_cons_of_pos ?_⟩
    · simp [Verdict.toCondition]
    · simp [type_settled, Verdict.toCondition]
  · refine ⟨_, rfl, ?_, (List.find?_cons_of_neg ?_).trans (List.find?_cons_of_pos ?_)⟩
    · simp [Verdict.toCondition]
    · simp [type_settled, Verdict.toCondition, different]
    · simp [type_settled, Verdict.toCondition]

theorem statusOf_settled {c desired : Condition} (found : c = settled stored desired now) :
    c.status = desired.status := by
  rw [found]
  exact (sameObservation_iff.mp (agrees_transitioned now (type_first ..)).2).2.1

theorem find?_afterAll (isRequired : type ∈ required) (timed : Timed type stored)
    (d : Derivation) :
    ∃ c, (afterAll stored [d]).find? (·.type = type) = some c ∧ c.lastTransitionTime =
      if statusOf type (afterAll stored [d]) = statusOf type stored then timeOf type stored
      else some d.now := by
  obtain ⟨desired, rfl, reasoned, found⟩ := exists_settled isRequired stored d
  refine ⟨_, found, ?_⟩
  have status : statusOf desired.type (afterAll stored [d]) = some desired.status := by
    rw [statusOf, found, Option.map_some, statusOf_settled rfl]
  rw [status]
  unfold settled first statusOf timeOf
  cases before : stored.find? (·.type = desired.type) with
  | none =>
    -- what stands in for an absent condition gives no reason, so it is always replaced
    have replaced : sameObservation { type := desired.type, status := .false } desired = false := by
      simpa [sameObservation] using fun _ _ same => absurd same.symm reasoned
    rw [Option.getD_none, replaced]
    simp [transitioned]
  | some c =>
    obtain ⟨time, at_⟩ := Option.isSome_iff_exists.mp (timed c before)
    rw [Option.getD_some, Option.map_some, Option.bind_some]
    by_cases same : c.sameObservation desired
    · have kept := (sameObservation_iff.mp same).2.1
      simp [same, kept]
    · by_cases kept : c.status = desired.status
      · simp [same, transitioned, kept, at_]
      · simp [same, transitioned, kept, Ne.symm kept]

theorem timeOf_afterAll_one (isRequired : type ∈ required) (timed : Timed type stored)
    (d : Derivation) : timeOf type (afterAll stored [d]) =
      if statusOf type (afterAll stored [d]) = statusOf type stored then timeOf type stored
      else some d.now := by
  obtain ⟨c, found, time⟩ := find?_afterAll isRequired timed d
  rw [← time, timeOf, found]
  rfl

theorem Timed.afterAll_one (isRequired : type ∈ required) (timed : Timed type stored)
    (d : Derivation) : Timed type (afterAll stored [d]) := by
  intro c found
  obtain ⟨c', found', time⟩ := find?_afterAll isRequired timed d
  obtain rfl := Option.some.inj (found.symm.trans found')
  rw [time]
  split
  · next same =>
    -- an unchanged status was there before, and with it a time
    obtain ⟨before, there, _⟩ := Option.map_eq_some_iff.mp
      ((show statusOf type stored = some c.status by rw [← same, statusOf, found]; rfl))
    rw [timeOf, there]
    exact timed before there
  · rfl

theorem afterAll_cons (stored : List Condition) (d : Derivation) (rest : List Derivation) :
    afterAll stored (d :: rest) = afterAll (afterAll stored [d]) rest := rfl

theorem afterAll_append (stored : List Condition) (steps more : List Derivation) :
    afterAll stored (steps ++ more) = afterAll (afterAll stored steps) more :=
  List.foldl_append

theorem Timed.afterAll (isRequired : type ∈ required) (timed : Timed type stored)
    (steps : List Derivation) : Timed type (afterAll stored steps) := by
  induction steps generalizing stored with
  | nil => exact timed
  | cons d rest ih => exact ih (timed.afterAll_one isRequired d)

theorem timeOf_afterAll (isRequired : type ∈ required) (timed : Timed type stored)
    (steps : List Derivation) : timeOf type (afterAll stored steps) =
      (shiftTimes type stored steps).getLast?.or (timeOf type stored) := by
  induction steps generalizing stored with
  | nil => rfl
  | cons d rest ih =>
    rw [afterAll_cons, ih (timed.afterAll_one isRequired d), timeOf_afterAll_one isRequired timed,
      shiftTimes]
    split
    · rfl
    · rw [List.getLast?_cons]
      cases (shiftTimes type (Condition.afterAll stored [d]) rest).getLast? <;> rfl

/-- Over any run of derivations the transition time of a condition is the time of the latest one
that changed its status, and if none did the one it had. What leaves the status alone leaves the
time alone. -/
theorem transitionTime_of_run (isRequired : type ∈ required) (timed : Timed type stored)
    (steps : List Derivation) :
    timeOf type (afterAll stored steps) =
        (shiftTimes type stored steps).getLast?.or (timeOf type stored) ∧
      (∀ before d after, steps = before ++ d :: after →
        statusOf type (afterAll stored (before ++ [d])) = statusOf type (afterAll stored before) →
        timeOf type (afterAll stored (before ++ [d])) = timeOf type (afterAll stored before)) ∧
      (steps ≠ [] → (afterAll stored steps).map (·.type) = required ∧
        (timeOf type (afterAll stored steps)).isSome) := by
  refine ⟨timeOf_afterAll isRequired timed steps, ?_, ?_⟩
  · rintro before d after rfl same
    have reached := timed.afterAll isRequired before
    rw [afterAll_append] at same ⊢
    rw [timeOf_afterAll_one isRequired reached, if_pos same]
  · intro some_
    obtain ⟨before, d, rfl⟩ : ∃ before d, steps = before ++ [d] :=
      ⟨_, _, (List.dropLast_concat_getLast some_).symm⟩
    have reached := timed.afterAll isRequired before
    obtain ⟨c, found, _⟩ := find?_afterAll isRequired reached d
    have lasting := (reached.afterAll_one isRequired d) c found
    rw [afterAll_append, timeOf, found]
    exact ⟨types_derive _ _ _ _ _, lasting⟩

/-- Stored twice, and only the first entry counts; nothing is stored about the last pass. -/
def aged : List Condition :=
  [{ type := Conventions.availableType, status := .true, observedGeneration := some 1
     lastTransitionTime := some "09:00", reason := some "Ready", message := some "ready" },
    { type := Conventions.availableType, status := .false }]

def laterPasses : List Derivation :=
  [⟨some 2, .ok { desired := 3, ready := 3, updated := 3, available := 3 }, none, "10:00"⟩,
    ⟨some 2, .error (.notFound "gone"), some "timeout", "11:00"⟩,
    ⟨some 3, .error (.notFound "gone"), some "forbidden", "12:00"⟩]

theorem aged_shifts_once : Conventions.availableType ∈ required ∧
    Timed Conventions.availableType aged ∧
    shiftTimes Conventions.availableType aged laterPasses = ["11:00"] ∧
    timeOf Conventions.availableType (afterAll aged laterPasses) = some "11:00" := by
  have isRequired : Conventions.availableType ∈ required := by decide
  have timed : Timed Conventions.availableType aged := by
    rintro c ⟨⟩
    rfl
  have shifts : shiftTimes Conventions.availableType aged laterPasses = ["11:00"] := by decide
  refine ⟨isRequired, timed, shifts, ?_⟩
  rw [(transitionTime_of_run isRequired timed laterPasses).1, shifts]
  rfl

end AgentOperator.Condition
