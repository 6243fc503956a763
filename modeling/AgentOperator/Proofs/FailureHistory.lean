import Mathlib.Data.List.Induction
import AgentOperator.ControlLoop
import AgentOperator.Proofs.FibonacciBackoff

/-!
The failures of one object among the turns of all loops. Every turn touches the history under its
own key only, and instances and credentials never share a key. A clean turn starts the history of an
instance over and leaves that of a credential as it is, so an instance waits by its failures since
the last clean turn, a credential by all failures it ever had.
-/
namespace AgentOperator

namespace FailureTable
variable (table : FailureTable) (settings : Settings) (key other : String)

theorem get?_forget : Fields.get? (table.forget key) other =
    if other = key then (Fields.get? table other).map Backoff.History.reset
    else Fields.get? table other := by
  unfold forget
  cases found : Fields.get? table key with
  | none =>
    dsimp only
    split
    · next same => simp [same, found]
    · rfl
  | some past =>
    dsimp only
    rw [Fields.get?_insert]
    split
    · next same => simp [same, found]
    · rfl

theorem get?_countError : Fields.get? (table.countError settings key) other =
    if other = key then some (table.history settings key).countError.advance
    else Fields.get? table other := by
  rw [countError, Fields.get?_insert]

theorem history_forget :
    history (table.forget key) settings other =
      if other = key then (history table settings other).reset
      else history table settings other := by
  rw [history, get?_forget]
  split
  · cases found : Fields.get? table other with
    | none =>
      simp only [history, found, Option.map_none, Option.getD_none]
      rfl
    | some past => simp [history, found]
  · rfl

theorem history_countError :
    history (table.countError settings key) settings other =
      if other = key then (history table settings other).countError.advance
      else history table settings other := by
  rw [history, get?_countError]
  split
  · next same => rw [same, Option.getD_some]
  · rfl

end FailureTable

structure Turn where
  subject : Subject
  result : Except TurnError Requeue

def FailureTable.after (settings : Settings) (table : FailureTable) (turns : List Turn) :
    FailureTable :=
  turns.foldl (fun table turn => (turn.subject.settle settings table turn.result).2.1) table

theorem FailureTable.after_concat (settings : Settings) (table : FailureTable) (turns : List Turn)
    (turn : Turn) :
    after settings table (turns ++ [turn]) =
      (turn.subject.settle settings (after settings table turns) turn.result).2.1 := by
  simp [after, List.foldl_append]

def Turn.resultsOf (key : String) (turns : List Turn) : List (Except TurnError Requeue) :=
  (turns.filter (·.subject.failureKey = key)).map (·.result)

def Turn.failed : Except TurnError Requeue → Bool
  | .ok _ => false
  | .error _ => true

def Turn.failures (results : List (Except TurnError Requeue)) : Nat := results.countP failed

def Turn.failuresSinceClean (results : List (Except TurnError Requeue)) : Nat :=
  (results.reverse.takeWhile failed).length

namespace Subject
variable {a b subject : Subject} {settings : Settings} {table : FailureTable}

theorem kind_cases (subject : Subject) :
    subject.kind = .nodeAgent ∨ subject.kind = .nodeScanner ∨ subject.kind = .secret := by
  rcases subject with ⟨⟨metadata, spec, status⟩⟩ | s
  · cases spec with
    | agent spec => exact Or.inl rfl
    | scanner spec => exact Or.inr (Or.inl rfl)
  · exact Or.inr (Or.inr rfl)

/-- A key begins with the kind, and five letters tell the kinds apart. -/
theorem take_failureKey (subject : Subject) :
    subject.failureKey.toList.take 5 = subject.kind.name.toList.take 5 := by
  rcases subject with ⟨⟨metadata, spec, status⟩⟩ | s
  · cases spec <;> simp [failureKey, Instance.failureKey, kind, Instance.kind, Kind.name]
  · simp [failureKey, Secret.failureKey, kind, Kind.name]

theorem kind_eq_of_failureKey_eq (same : a.failureKey = b.failureKey) : a.kind = b.kind := by
  have starts : a.kind.name.toList.take 5 = b.kind.name.toList.take 5 := by
    rw [← take_failureKey, same, take_failureKey]
  rcases kind_cases a with first | first | first <;>
    rcases kind_cases b with second | second | second <;>
    rw [first, second] at starts ⊢ <;> simp [Kind.name] at starts

def progress (subject : Subject) (past : Backoff.History) :
    Except TurnError Requeue → Backoff.History
  | .ok _ =>
    match subject with
    | .managed _ => past.reset
    | .credential _ => past
  | .error _ => past.countError.advance

theorem progress_congr (same : a.failureKey = b.failureKey) : a.progress = b.progress := by
  have kinds := kind_eq_of_failureKey_eq same
  funext past result
  cases result with
  | error error => rfl
  | ok requeue =>
    rcases a with ⟨⟨metadata, spec, status⟩⟩ | s <;>
      rcases b with ⟨⟨metadata', spec', status'⟩⟩ | s'
    · rfl
    · cases spec <;> cases kinds
    · cases spec' <;> cases kinds
    · rfl

theorem history_settle (subject : Subject) (settings : Settings) (table : FailureTable)
    (result : Except TurnError Requeue) (key : String) :
    (subject.settle settings table result).2.1.history settings key =
      if key = subject.failureKey then subject.progress (table.history settings key) result
      else table.history settings key := by
  cases result with
  | error error => exact table.history_countError settings subject.failureKey key
  | ok requeue =>
    cases subject with
    | managed i => exact table.history_forget settings i.failureKey key
    | credential s =>
      show table.history settings key = _
      simp [progress]

/-- The failures that decide how long an object waits. -/
def counted (subject : Subject) (results : List (Except TurnError Requeue)) : Nat :=
  match subject with
  | .managed _ => Turn.failuresSinceClean results
  | .credential _ => Turn.failures results

theorem counted_concat_error (subject : Subject) (results : List (Except TurnError Requeue))
    (error : TurnError) :
    subject.counted (results ++ [.error error]) = subject.counted results + 1 := by
  cases subject with
  | managed i => simp [counted, Turn.failuresSinceClean, Turn.failed, List.takeWhile_cons]
  | credential s => simp [counted, Turn.failures, Turn.failed]

theorem reached_progress {least most : Nat} {past : Backoff.History}
    {results : List (Except TurnError Requeue)} (bounded : most ≤ Backoff.largestWord)
    (reached : Backoff.Reached least most (subject.counted results) past.backoff)
    (result : Except TurnError Requeue) :
    Backoff.Reached least most (subject.counted (results ++ [result]))
      (subject.progress past result).backoff := by
  cases result with
  | error error =>
    rw [counted_concat_error]
    exact reached.advance bounded
  | ok requeue =>
    cases subject with
    | managed i =>
      have none : (managed i).counted (results ++ [.ok requeue]) = 0 := by
        simp [counted, Turn.failuresSinceClean, Turn.failed]
      rw [none]
      exact reached.reset
    | credential s =>
      have same : (credential s).counted (results ++ [.ok requeue]) =
          (credential s).counted results := by
        simp [counted, Turn.failures, Turn.failed]
      rw [same]
      exact reached

theorem reached_after (subject : Subject)
    (bounded : settings.backoffCeiling ≤ Backoff.largestWord) (turns : List Turn) :
    Backoff.Reached settings.backoffFloor settings.backoffCeiling
      (subject.counted (Turn.resultsOf subject.failureKey turns))
      ((FailureTable.after settings [] turns).history settings subject.failureKey).backoff := by
  -- on the last turn, for a table is what the turns before it have left
  induction turns using List.reverseRecOn with
  | nil =>
    have none : subject.counted (Turn.resultsOf subject.failureKey []) = 0 := by
      cases subject <;> rfl
    rw [none]
    exact Backoff.reached_start _ _
  | append_singleton turns turn ih =>
    rw [FailureTable.after_concat, history_settle]
    split
    · next own =>
      have results : Turn.resultsOf subject.failureKey (turns ++ [turn]) =
          Turn.resultsOf subject.failureKey turns ++ [turn.result] := by
        simp [Turn.resultsOf, own]
      rw [results, progress_congr own.symm]
      exact reached_progress bounded ih turn.result
    · next other =>
      have results : Turn.resultsOf subject.failureKey (turns ++ [turn]) =
          Turn.resultsOf subject.failureKey turns := by
        simp [Turn.resultsOf, Ne.symm other]
      rw [results]
      exact ih

theorem failuresSinceClean_le (results : List (Except TurnError Requeue)) :
    Turn.failuresSinceClean results ≤ Turn.failures results := by
  have all : (results.reverse.takeWhile Turn.failed).countP Turn.failed =
      Turn.failuresSinceClean results :=
    List.countP_eq_length.mpr fun result member =>
      List.all_eq_true.mp List.all_takeWhile result member
  rw [← all, Turn.failures, ← results.countP_reverse]
  exact (List.takeWhile_sublist _).countP_le

def secondsAfter (settings : Settings) (count : Nat) : Nat :=
  Backoff.sequence settings.backoffFloor settings.backoffCeiling count

def waits (subject : Subject) (settings : Settings) (turns : List Turn) (error : TurnError) :
    Requeue :=
  (subject.settle settings (FailureTable.after settings [] turns) (.error error)).1

theorem waits_eq (subject : Subject) (bounded : settings.backoffCeiling ≤ Backoff.largestWord)
    (turns : List Turn) (error : TurnError) :
    subject.waits settings turns error = .after (.ofSecs (secondsAfter settings
      (subject.counted (Turn.resultsOf subject.failureKey turns)))) := by
  have reached := reached_after subject bounded turns
  show Requeue.after (.ofSecs (Backoff.delay _)) = _
  rw [reached.delay]
  rfl

theorem after_ofSecs_inj {a b : Nat} :
    Requeue.after (.ofSecs a) = .after (.ofSecs b) ↔ a = b := by
  simp [Duration.ofSecs, Duration.nanosPerSecond]

/-- An instance waits by its failures since the last clean turn. A credential waits by all its
failures, which is the same delay exactly if no clean turn came after a failure, if there was a
single failure and a clean turn after it, or if the ceiling is reached anyway. -/
theorem waits_since_clean_iff (bounded : settings.backoffCeiling ≤ Backoff.largestWord)
    (subject : Subject) (turns : List Turn) (error : TurnError) :
    let results := Turn.resultsOf subject.failureKey turns
    let recent := Turn.failuresSinceClean results
    (∀ i, subject = .managed i →
      subject.waits settings turns error = .after (.ofSecs (secondsAfter settings recent))) ∧
    (∀ s, subject = .credential s →
      (subject.waits settings turns error = .after (.ofSecs (secondsAfter settings recent)) ↔
        recent = Turn.failures results ∨ (recent = 0 ∧ Turn.failures results = 1) ∨
          Backoff.limit settings.backoffFloor settings.backoffCeiling ≤
            Nat.fib (recent + 1) * Backoff.unit settings.backoffFloor)) := by
  intro results recent
  have wait := waits_eq subject bounded turns error
  constructor
  · rintro i rfl
    exact wait
  · rintro s rfl
    rw [wait, after_ofSecs_inj]
    exact Backoff.sequence_eq_iff (failuresSinceClean_le results)

def token : Subject :=
  .credential { metadata := { name := some "telemetry-token", ns := some "observability" } }

def timeout : TurnError :=
  .expiry (.namespaced "observability" "telemetry-token") (.request "timeout")

def tokenTurns : List Turn :=
  [⟨token, .error timeout⟩, ⟨token, .error timeout⟩, ⟨token, .ok .awaitChange⟩]

theorem token_waits_after_failures :
    Settings.backoffCeiling {} ≤ Backoff.largestWord ∧
      token.waits {} (tokenTurns.take 2) timeout = .after (.ofSecs 2) := by
  have bounded : Settings.backoffCeiling {} ≤ Backoff.largestWord := by decide
  have results : Turn.resultsOf token.failureKey (tokenTurns.take 2) =
      [.error timeout, .error timeout] := by simp [Turn.resultsOf, tokenTurns]
  obtain ⟨_, credential⟩ := waits_since_clean_iff bounded token (tokenTurns.take 2) timeout
  refine ⟨bounded, ?_⟩
  rw [results] at credential
  exact (credential _ rfl).mpr (Or.inl rfl)

theorem token_waits_longer_after_clean_turn :
    token.waits {} tokenTurns timeout = .after (.ofSecs 2) ∧
      Turn.failuresSinceClean (Turn.resultsOf token.failureKey tokenTurns) = 0 ∧
      secondsAfter {} 0 = 1 := by
  have results : Turn.resultsOf token.failureKey tokenTurns =
      [.error timeout, .error timeout, .ok .awaitChange] := by simp [Turn.resultsOf, tokenTurns]
  refine ⟨?_, ?_, rfl⟩
  · rw [waits_eq token (by decide), results]
    rfl
  · rw [results]
    rfl

end Subject
end AgentOperator
