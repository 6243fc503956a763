import AgentOperator.Proofs.Rehearsal
import AgentOperator.Proofs.StepTrace

/-!
When a wait for an object looks, and how often. The looks come at multiples of what a pause takes,
and there is another as long as the interval still fits before the deadline. A pause takes the
interval if the wait starts on a whole millisecond and the interval is whole milliseconds and no
longer than the longest sleep; then as many looks are made as fit the timeout, and none is late.
-/
namespace AgentOperator

namespace PollWindow
variable {w : PollWindow} {start : Duration} {k : Nat}

def period (w : PollWindow) (start : Duration) : Duration := World.sleepTime start w.interval

/-- How often a wait looks that finds nothing. -/
def allowed (w : PollWindow) (start : Duration) : Nat :=
  if w.interval ≤ w.timeout then
    (w.timeout.nanos - w.interval.nanos) / (w.period start).nanos + 2
  else 1

theorem allowed_pos : 0 < w.allowed start := by
  unfold allowed
  split
  · exact Nat.succ_pos _
  · exact Nat.one_pos

theorem asSleep_pos (positive : 0 < w.interval.nanos) : 0 < w.interval.asSleep.nanos := by
  have longest : 0 < Duration.longestSleep.nanos := by decide
  exact Nat.lt_min.mpr ⟨positive, longest⟩

theorem period_pos (positive : 0 < w.interval.nanos) : 0 < (w.period start).nanos :=
  Nat.lt_of_lt_of_le (asSleep_pos positive) (World.asSleep_le_sleepTime start w.interval)

theorem late_iff (positive : 0 < w.interval.nanos) :
    w.timeout.nanos < k * (w.period start).nanos + w.interval.nanos ↔ w.allowed start ≤ k + 1 := by
  by_cases fits : w.interval ≤ w.timeout
  · have ordered : w.interval.nanos ≤ w.timeout.nanos := fits
    have spent : (w.timeout.nanos - w.interval.nanos) / (w.period start).nanos < k ↔
        w.timeout.nanos - w.interval.nanos < k * (w.period start).nanos :=
      Nat.div_lt_iff_lt_mul (period_pos positive)
    rw [allowed, if_pos fits]
    omega
  · have ordered : w.timeout.nanos < w.interval.nanos := Nat.lt_of_not_le fits
    rw [allowed, if_neg fits]
    omega

theorem allowed_le_looks (positive : 0 < w.interval.nanos) : w.allowed start ≤ w.looks := by
  have sleeps := asSleep_pos positive
  have shortened : w.interval.asSleep.nanos ≤ w.interval.nanos := Nat.min_le_left _ _
  have slept : w.interval.asSleep.nanos ≤ (w.period start).nanos :=
    World.asSleep_le_sleepTime start w.interval
  unfold allowed looks
  rw [Nat.max_eq_left sleeps]
  split
  · next fits =>
    have ordered : w.interval.nanos ≤ w.timeout.nanos := fits
    have slower : (w.timeout.nanos - w.interval.nanos) / (w.period start).nanos ≤
        (w.timeout.nanos - w.interval.asSleep.nanos) / w.interval.asSleep.nanos :=
      Nat.div_le_div (by omega) slept (by omega)
    have first : w.timeout.nanos / w.interval.asSleep.nanos =
        (w.timeout.nanos - w.interval.asSleep.nanos) / w.interval.asSleep.nanos + 1 :=
      Nat.div_eq_sub_div sleeps (by omega)
    omega
  · exact Nat.le_add_left 1 _

theorem period_le (whole : Duration.nanosPerMilli ∣ w.interval.nanos) :
    (w.period start).nanos ≤ w.interval.nanos + Duration.nanosPerMilli := by
  obtain ⟨millis, same⟩ := whole
  have shortened : w.interval.asSleep.nanos ≤ w.interval.nanos := Nat.min_le_left _ _
  show ((start.nanos + w.interval.asSleep.nanos + 999999) / 1000000 - start.nanos / 1000000) *
    1000000 ≤ w.interval.nanos + 1000000
  simp only [Duration.nanosPerMilli] at same
  omega

theorem period_of_whole (whole : Duration.nanosPerMilli ∣ w.interval.nanos)
    (begun : Duration.nanosPerMilli ∣ start.nanos) (short : w.interval ≤ Duration.longestSleep) :
    w.period start = w.interval := by
  obtain ⟨millis, same⟩ := whole
  rw [period, World.sleepTime_of_whole begun short]
  apply Duration.ext
  show (w.interval.nanos + 999999) / 1000000 * 1000000 = w.interval.nanos
  simp only [Duration.nanosPerMilli] at same
  omega

theorem allowed_of_period (positive : 0 < w.interval.nanos) (same : w.period start = w.interval) :
    w.allowed start = w.timeout.nanos / w.interval.nanos + 1 := by
  unfold allowed
  rw [same]
  split
  · next fits => rw [Nat.div_eq_sub_div positive fits]
  · next short => rw [Nat.div_eq_of_lt (Nat.lt_of_not_le short)]

end PollWindow

namespace Program
variable {slot : Slot} {w : PollWindow} {answers : Nat → (c : Call) → c.Answer}
  {wall : Timestamp} {start : Duration}

def Missing (answer : Except StoreError Object) : Prop := ∃ text, answer = .error (.notFound text)

def settled : Except StoreError Object → Except StoreError (Option Object)
  | .ok object => .ok (some object)
  | .error (.notFound _) => .ok none
  | .error error => .error error

theorem settled_eq_none_iff {answer : Except StoreError Object} :
    settled answer = .ok none ↔ Missing answer := by
  rcases answer with (_ | _ | _ | _) | object <;> simp [settled, Missing]

/-- The look of this number, counted from zero, is the last: it settles the wait, or the next would
come too late. -/
def EndsAt (slot : Slot) (w : PollWindow) (answers : Nat → (c : Call) → c.Answer)
    (start : Duration) (k : Nat) : Prop :=
  ¬ Missing (answers k (.get slot)) ∨ w.allowed start ≤ k + 1

/-- From the look of number `n` on, the first that ends the wait is the last. -/
theorem lookUntil_rehearsed (slot : Slot) (answers : Nat → (c : Call) → c.Answer)
    (wall : Timestamp) (positive : 0 < w.interval.nanos) {looks n : Nat} {log : Logbook}
    (entered : log.called = Logbook.rounds start (fun _ => w.interval) n)
    (more : n < w.allowed start) (enough : w.allowed start ≤ n + looks) :
    ∃ last, IsLeast {k | n ≤ k ∧ EndsAt slot w answers start k} last ∧
      (lookUntil slot w.interval (start + w.timeout) looks).rehearse answers wall log =
        (settled (answers last (.get slot)), Logbook.rounds start (fun _ => w.interval) last) := by
  induction looks generalizing n log with
  | zero => omega
  | succ looks ih =>
    rw [lookUntil, get_bind, rehearse_call, Logbook.length_calls_of_called entered, entered]
    cases answer : answers n (.get slot) with
    | ok object =>
      refine ⟨n, isLeast_here (Or.inl (by simp [answer, Missing])), ?_⟩
      rw [answer]
      rfl
    | error error =>
      cases error with
      | notFound text =>
        have late : start + w.timeout <
            (Logbook.rounds start (fun _ => w.interval) n).clock + w.interval ↔
            w.allowed start ≤ n + 1 := by
          rw [Logbook.rounds, Logbook.timeAfter_const, ← PollWindow.late_iff positive]
          show start.nanos + w.timeout.nanos <
            start.nanos + n * (w.period start).nanos + w.interval.nanos ↔ _
          omega
        rw [now_bind, rehearse_clock]
        by_cases spent : w.allowed start ≤ n + 1
        · refine ⟨n, isLeast_here (Or.inr spent), ?_⟩
          rw [if_pos (late.mpr spent), answer]
          rfl
        · rw [if_neg (mt late.mp spent), pause_bind, rehearse_sleep]
          have going : ¬ EndsAt slot w answers start n := by
            rintro (found | late)
            · exact found ⟨text, answer⟩
            · exact spent late
          obtain ⟨last, least, run⟩ :=
            ih (Logbook.called_slept_rounds n) (by omega) (by omega)
          exact ⟨last, isLeast_later going least, run⟩
      | _ =>
        refine ⟨n, isLeast_here (Or.inl (by simp [answer, Missing])), ?_⟩
        rw [answer]
        rfl

section
variable {last : Nat}

theorem settled_none_iff (least : IsLeast {k | EndsAt slot w answers start k} last)
    (within : last < w.allowed start) :
    settled (answers last (.get slot)) = .ok none ↔
      ∀ k < w.allowed start, Missing (answers k (.get slot)) := by
  rw [settled_eq_none_iff]
  constructor
  · intro missed k allowed
    have spent : w.allowed start ≤ last + 1 := by
      rcases least.1 with found | spent
      · exact absurd missed found
      · exact spent
    rcases Nat.lt_or_eq_of_le (Nat.le_of_lt_succ (Nat.lt_of_lt_of_le allowed spent)) with
      before | rfl
    · have going : ¬ EndsAt slot w answers start k :=
        fun ends => Nat.not_le_of_lt before (least.2 ends)
      exact not_not.mp fun found => going (Or.inl found)
    · exact missed
  · intro missed
    exact missed last within

theorem last_look_le (positive : 0 < w.interval.nanos)
    (least : IsLeast {k | EndsAt slot w answers start k} last) :
    last * (w.period start).nanos ≤
      w.timeout.nanos + ((w.period start).nanos - w.interval.nanos) := by
  cases last with
  | zero => omega
  | succ before =>
    have going : ¬ EndsAt slot w answers start before :=
      fun ends => Nat.not_succ_le_self before (least.2 ends)
    have inTime := mt (PollWindow.late_iff positive).mp fun spent => going (Or.inr spent)
    rw [Nat.succ_mul]
    omega

end

/-- A wait only looks. Its looks come at multiples of what a pause takes, and the last is the first
that finds the object or fails, or else the last that the timeout allows; then nothing is found. No
look comes later after the deadline than a pause takes longer than the interval. Of an interval of
whole milliseconds that is by one millisecond at most, and from a start at a whole millisecond, if
the interval is no longer than the longest sleep, a pause takes the interval and as many looks as
fit the timeout are allowed. -/
theorem poll_looks_at_multiples (slot : Slot) (w : PollWindow) (positive : 0 < w.interval.nanos)
    (answers : Nat → (c : Call) → c.Answer) (wall : Timestamp) (start : Duration) :
    (poll slot w).Only (· = .get slot) ∧
      ∃ last log, IsLeast {k | EndsAt slot w answers start k} last ∧
        (poll slot w).rehearse answers wall { clock := start } =
          (settled (answers last (.get slot)), log) ∧
        log.calls = (List.range (last + 1)).map (fun k =>
          ⟨start.nanos + k * (w.period start).nanos⟩) ∧
        (settled (answers last (.get slot)) = .ok none ↔
          ∀ k < w.allowed start, Missing (answers k (.get slot))) ∧
        last * (w.period start).nanos ≤
          w.timeout.nanos + ((w.period start).nanos - w.interval.nanos) ∧
        (Duration.nanosPerMilli ∣ w.interval.nanos →
          (w.period start).nanos ≤ w.interval.nanos + Duration.nanosPerMilli ∧
          (Duration.nanosPerMilli ∣ start.nanos → w.interval ≤ Duration.longestSleep →
            w.period start = w.interval ∧
            w.allowed start = w.timeout.nanos / w.interval.nanos + 1)) := by
  have first : 0 < w.allowed start := PollWindow.allowed_pos
  obtain ⟨last, found, run⟩ := lookUntil_rehearsed slot answers wall positive
    (Logbook.called_fresh start fun _ => w.interval) first
    (by simpa using PollWindow.allowed_le_looks positive)
  have least : IsLeast {k | EndsAt slot w answers start k} last := by simpa using found
  have within : last < w.allowed start := by
    have spent : EndsAt slot w answers start (w.allowed start - 1) := Or.inr (by omega)
    have := least.2 spent
    omega
  have calls : (List.range (last + 1)).map (Logbook.timeAfter start fun _ => w.interval) =
      (List.range (last + 1)).map fun k => ⟨start.nanos + k * (w.period start).nanos⟩ :=
    List.map_congr_left fun k _ => Logbook.timeAfter_const start w.interval k
  refine ⟨only_poll slot w, last, _, least, run, calls, settled_none_iff least within,
    last_look_le positive least, ?_⟩
  intro whole
  refine ⟨PollWindow.period_le whole, ?_⟩
  intro begun short
  have same := PollWindow.period_of_whole whole begun short
  exact ⟨same, PollWindow.allowed_of_period positive same⟩

def awaited : Slot := ⟨.secret, ⟨some "n", "token"⟩⟩

def appearing : Nat → (c : Call) → c.Answer
  | 0, _ | 1, _ => .error (.notFound "secrets")
  | _, .get _ => .ok {}
  | _, _ => .error (.request "refused")

theorem wait_finds_at_third_look :
    0 < (Duration.ofSecs 1).nanos ∧
      ∃ log, (poll awaited ⟨.ofSecs 1, .ofSecs 2⟩).rehearse appearing ⟨0, 0⟩ { clock := .zero } =
          (.ok (some {}), log) ∧
        log.calls = [.zero, .ofSecs 1, .ofSecs 2] := by
  have positive : 0 < (Duration.ofSecs 1).nanos := by decide
  obtain ⟨_, last, log, least, run, calls, _, _, whole⟩ :=
    poll_looks_at_multiples awaited ⟨.ofSecs 1, .ofSecs 2⟩ positive appearing ⟨0, 0⟩ .zero
  obtain ⟨same, allowed⟩ := (whole (by decide)).2 (by decide) (by decide)
  have third : IsLeast {k | EndsAt awaited ⟨.ofSecs 1, .ofSecs 2⟩ appearing .zero k} 2 := by
    refine ⟨Or.inl (by simp [Missing, appearing, awaited]), ?_⟩
    rintro k (found | spent)
    · match k with
      | 0 | 1 => exact absurd ⟨"secrets", rfl⟩ found
      | k + 2 => exact Nat.le_add_left 2 k
    · have three : PollWindow.allowed ⟨.ofSecs 1, .ofSecs 2⟩ .zero = 3 := allowed.trans (by decide)
      omega
  obtain rfl := least.unique third
  exact ⟨positive, log, run, by rw [calls, same]; rfl⟩

def barren : Nat → (c : Call) → c.Answer := fun _ _ => .error (.notFound "secrets")

def plainLooks (w : PollWindow) (start : Duration) : List Duration :=
  (List.range (w.timeout.nanos / w.interval.nanos + 1)).map fun k =>
    ⟨start.nanos + k * w.interval.nanos⟩

/-- A pause of one millisecond that begins halfway through another takes two, and one of forty years
is cut to thirty. -/
theorem looks_leave_multiples_of_interval :
    ((poll awaited ⟨.ofMillis 1, .ofMillis 3⟩).rehearse barren ⟨0, 0⟩
        { clock := ⟨500000⟩ }).2.calls = [⟨500000⟩, ⟨2500000⟩, ⟨4500000⟩] ∧
      plainLooks ⟨.ofMillis 1, .ofMillis 3⟩ ⟨500000⟩ =
        [⟨500000⟩, ⟨1500000⟩, ⟨2500000⟩, ⟨3500000⟩] ∧
      ((poll awaited ⟨.ofSecs 1261440000, .ofSecs 3153600000⟩).rehearse barren ⟨0, 0⟩
        { clock := .zero }).2.calls =
          [.zero, .ofSecs 946080000, .ofSecs 1892160000, .ofSecs 2838240000] ∧
      plainLooks ⟨.ofSecs 1261440000, .ofSecs 3153600000⟩ .zero =
        [.zero, .ofSecs 1261440000, .ofSecs 2522880000] := by
  exact ⟨rfl, rfl, rfl, rfl⟩

end Program
end AgentOperator
