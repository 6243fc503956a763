import AgentOperator.Proofs.Rehearsal
import AgentOperator.Retry

/-!
How often a bounded retry calls, and when. The policy is followed with the attempts that are left; a
loop that counts the attempts made, in a 32-bit word, does the same and never counts too far. The
last call is the first whose outcome ends the retry, or the last that the policy allows, and between
the calls are the delays of the policy, as long as the clock makes them.
-/
namespace AgentOperator

def largestCount : Nat := 4294967295

namespace RetryPolicy

section
variable {m : Type → Type} [Monad m] {ε α : Type}

/-- The loop with its counter; nothing comes of it if there is no room for another attempt. -/
def counted (policy : RetryPolicy) (retryable : ε → Bool) (pause : Duration → m Unit)
    (operation : m (Except ε α)) (made : Nat) (delay : Duration) : m (Option (Except ε α)) :=
  if made < largestCount then do
    match ← operation with
    | .ok value => return some (.ok value)
    | .error error =>
      if !retryable error then return some (.error error)
      else if policy.maxAttempts ≤ made + 1 then return some (.error error)
      else
        pause delay
        policy.counted retryable pause operation (made + 1) (policy.nextDelay delay)
  else return none
termination_by largestCount - made

theorem counted_eq_attempt [LawfulMonad m] {policy : RetryPolicy} {retryable : ε → Bool}
    {pause : Duration → m Unit} {operation : m (Except ε α)} {made retries : Nat}
    (delay : Duration) (word : policy.maxAttempts ≤ largestCount)
    (left : max 1 policy.maxAttempts = made + 1 + retries) :
    policy.counted retryable pause operation made delay =
      some <$> policy.attempt retryable pause operation retries delay := by
  have room : made < largestCount := by
    unfold largestCount at *
    omega
  induction retries generalizing made delay with
  | zero =>
    have spent : policy.maxAttempts ≤ made + 1 := by omega
    rw [counted, if_pos room, attempt, map_eq_pure_bind]
    congr 1
    funext outcome
    cases outcome with
    | ok value => rfl
    | error error => simp [spent]
  | succ retries ih =>
    have more : ¬ policy.maxAttempts ≤ made + 1 := by omega
    have roomAfter : made + 1 < largestCount := by omega
    rw [counted, if_pos room, attempt, map_bind]
    congr 1
    funext outcome
    cases outcome with
    | ok value => simp
    | error error =>
      cases worth : retryable error with
      | false => simp [worth]
      | true => simp [worth, more, ih (policy.nextDelay delay) (by omega) roomAfter]

end

variable {ε α : Type} {policy : RetryPolicy} {retryable : ε → Bool}
  {outcomes : Nat → Except ε α} {start : Duration}

def delays (policy : RetryPolicy) (k : Nat) : Duration := policy.nextDelay^[k] policy.initialDelay

theorem delays_succ (k : Nat) : policy.delays (k + 1) = policy.nextDelay (policy.delays k) :=
  Function.iterate_succ_apply' _ k _

/-- After this call, counted from zero, there is no other: it succeeds, fails for good, or uses up
the attempts. -/
def EndsAt (policy : RetryPolicy) (retryable : ε → Bool) (outcomes : Nat → Except ε α) (k : Nat) :
    Prop :=
  (∃ value, outcomes k = .ok value) ∨
    (∃ error, outcomes k = .error error ∧ retryable error = false) ∨ policy.maxAttempts ≤ k + 1

theorem not_endsAt {k : Nat} {error : ε} (failed : outcomes k = .error error)
    (worth : retryable error = true) (more : k + 1 < policy.maxAttempts) :
    ¬ policy.EndsAt retryable outcomes k := by
  rintro (⟨value, succeeded⟩ | ⟨other, same, final⟩ | spent)
  · rw [failed] at succeeded
    cases succeeded
  · rw [failed] at same
    cases same
    rw [worth] at final
    cases final
  · omega

/-- From the call of number `n` on, the first that ends the retry is the last. -/
theorem attempt_rehearsed (retryable : ε → Bool) (outcomes : Nat → Except ε α)
    {retries n : Nat} {log : Logbook}
    (entered : log.called = Logbook.rounds start policy.delays n)
    (left : max 1 policy.maxAttempts = n + 1 + retries) :
    ∃ last, IsLeast {k | n ≤ k ∧ policy.EndsAt retryable outcomes k} last ∧
      policy.attempt retryable Logbook.pause (Logbook.call outcomes) retries (policy.delays n) log =
        (outcomes last, Logbook.rounds start policy.delays last) := by
  induction retries generalizing n log with
  | zero =>
    refine ⟨n, isLeast_here (Or.inr (Or.inr (by omega))), ?_⟩
    have number := Logbook.length_calls_of_called entered
    rw [attempt, ← entered, ← number]
    rfl
  | succ retries ih =>
    rw [attempt, Logbook.call_bind, Logbook.length_calls_of_called entered, entered]
    cases outcome : outcomes n with
    | ok value =>
      refine ⟨n, isLeast_here (Or.inl ⟨value, outcome⟩), ?_⟩
      rw [outcome]
      rfl
    | error error =>
      cases worth : retryable error with
      | false =>
        refine ⟨n, isLeast_here (Or.inr (Or.inl ⟨error, outcome, worth⟩)), ?_⟩
        rw [outcome]
        simp only [worth]
        rfl
      | true =>
        have going : ¬ policy.EndsAt retryable outcomes n := not_endsAt outcome worth (by omega)
        obtain ⟨last, least, run⟩ := ih (Logbook.called_slept_rounds n) (by omega)
        refine ⟨last, isLeast_later going least, ?_⟩
        rw [← run, delays_succ]
        simp only [worth, if_true, Logbook.pause_bind]

/-- A retry makes calls up to the first that ends it and returns what that one came to. It sleeps
through the delays of the policy in their order, and each call is made when the sleeps before it
have taken their time; the counter of a loop that counts in 32 bits has room for all of them. From a
start at a whole millisecond a delay that is no longer than the longest sleep takes itself, rounded
up to whole milliseconds. -/
theorem run_makes_allowed_calls (policy : RetryPolicy) (word : policy.maxAttempts ≤ largestCount)
    (retryable : ε → Bool) (outcomes : Nat → Except ε α) (start : Duration) :
    ∃ last log, IsLeast {k | policy.EndsAt retryable outcomes k} last ∧
      policy.run retryable Logbook.pause (Logbook.call outcomes) { clock := start } =
        (outcomes last, log) ∧
      policy.counted retryable Logbook.pause (Logbook.call outcomes) 0 policy.initialDelay
        { clock := start } = (some (outcomes last), log) ∧
      log.pauses = (List.range last).map policy.delays ∧
      log.calls = (List.range (last + 1)).map (fun k =>
        ⟨start.nanos + ∑ j ∈ Finset.range k, (World.sleepTime start (policy.delays j)).nanos⟩) ∧
      (Duration.nanosPerMilli ∣ start.nanos → ∀ j, policy.delays j ≤ Duration.longestSleep →
        World.sleepTime start (policy.delays j) = .ofMillis (policy.delays j).ceilMillis) := by
  have left : max 1 policy.maxAttempts = 0 + 1 + (policy.maxAttempts - 1) := by omega
  have entered := Logbook.called_fresh start policy.delays
  obtain ⟨last, least, run⟩ := attempt_rehearsed retryable outcomes entered left
  refine ⟨last, Logbook.rounds start policy.delays last, by simpa using least, run, ?_, rfl, rfl,
    ?_⟩
  · rw [counted_eq_attempt policy.initialDelay word left]
    exact congrArg (fun result => (some result.1, result.2)) run
  · intro whole j short
    exact World.sleepTime_of_whole whole short

def tireless : RetryPolicy := { maxAttempts := largestCount }

def thirdSucceeds : Nat → Except String Nat := fun k => if k < 2 then .error "conflict" else .ok 7

theorem tireless_stops_at_success :
    tireless.maxAttempts ≤ largestCount ∧
      ∃ log, tireless.run (fun _ => true) Logbook.pause (Logbook.call thirdSucceeds)
          { clock := .zero } = (.ok 7, log) ∧
        log.calls.length = 3 ∧ log.pauses = [.ofMillis 10, tireless.nextDelay (.ofMillis 10)] := by
  have word : tireless.maxAttempts ≤ largestCount := Nat.le_refl _
  obtain ⟨last, log, least, run, _, pauses, calls, _⟩ :=
    run_makes_allowed_calls tireless word (fun _ => true) thirdSucceeds .zero
  have third : IsLeast {k | tireless.EndsAt (fun _ => true) thirdSucceeds k} 2 := by
    refine ⟨Or.inl ⟨7, rfl⟩, ?_⟩
    intro k ends
    refine Nat.le_of_not_lt fun below => not_endsAt (if_pos below) rfl ?_ ends
    show k + 1 < largestCount
    unfold largestCount
    omega
  obtain rfl := least.unique third
  exact ⟨word, log, run, by simp [calls], pauses⟩

def patient : RetryPolicy :=
  { maxAttempts := 2, initialDelay := .ofSecs 100000000000, maxDelay := .ofSecs 100000000000 }

def brief : RetryPolicy := { maxAttempts := 2, initialDelay := ⟨1200000⟩ }

def refused : Nat → Except String Nat := fun _ => .error "conflict"

def plainCalls (policy : RetryPolicy) (start : Duration) (count : Nat) : List Duration :=
  (List.range count).map fun k =>
    ⟨start.nanos + ∑ j ∈ Finset.range k, (Duration.ofMillis (policy.delays j).ceilMillis).nanos⟩

/-- A sleep of the first delay is cut to thirty years, and one of 1.2 milliseconds that begins 0.9
milliseconds past a whole one takes three. -/
theorem calls_leave_partial_sums :
    (patient.run (fun _ => true) Logbook.pause (Logbook.call refused) { clock := .zero }).2.calls =
        [.zero, .ofSecs 946080000] ∧
      plainCalls patient .zero 2 = [.zero, .ofSecs 100000000000] ∧
      (brief.run (fun _ => true) Logbook.pause (Logbook.call refused)
        { clock := ⟨900000⟩ }).2.calls = [⟨900000⟩, ⟨3900000⟩] ∧
      plainCalls brief ⟨900000⟩ 2 = [⟨900000⟩, ⟨2900000⟩] := by
  exact ⟨rfl, rfl, rfl, rfl⟩

end RetryPolicy
end AgentOperator
