import Mathlib.Algebra.BigOperators.Intervals
import Mathlib.Algebra.BigOperators.Ring.Finset
import Mathlib.Order.Bounds.Basic
import AgentOperator.World

/-!
Runs against answers that are given beforehand, on a clock that nothing but sleeping moves. What a
store does with a run shows in how it answers the first call, the second and so on, so all sequences
of answers together are all stores. A sleep moves the clock by whole milliseconds; then all sleeps
of a run begin equally far past one, and each takes what it would have taken at the start.
-/
namespace AgentOperator

/-- What the clock shows, when calls were made, and for how long was slept between them. -/
structure Logbook where
  clock : Duration
  calls : List Duration := []
  pauses : List Duration := []
  deriving DecidableEq, Repr

namespace Logbook
variable {β γ : Type} {start : Duration} {span : Nat → Duration}

def called (log : Logbook) : Logbook := { log with calls := log.calls ++ [log.clock] }

def slept (log : Logbook) (span : Duration) : Logbook :=
  { log with
    clock := log.clock + World.sleepTime log.clock span
    pauses := log.pauses ++ [span] }

def call (answers : Nat → β) : StateM Logbook β :=
  fun log => (answers log.calls.length, log.called)

def pause (span : Duration) : StateM Logbook Unit := fun log => ((), log.slept span)

def now (wall : Timestamp) : StateM Logbook Moment :=
  fun log => (⟨wall.add log.clock, log.clock⟩, log)

theorem call_bind (answers : Nat → β) (f : β → StateM Logbook γ) (log : Logbook) :
    (call answers >>= f) log = f (answers log.calls.length) log.called := rfl

theorem pause_bind (span : Duration) (f : Unit → StateM Logbook γ) (log : Logbook) :
    (pause span >>= f) log = f () (log.slept span) := rfl

def timeAfter (start : Duration) (span : Nat → Duration) (count : Nat) : Duration :=
  ⟨start.nanos + ∑ j ∈ Finset.range count, (World.sleepTime start (span j)).nanos⟩

def rounds (start : Duration) (span : Nat → Duration) (count : Nat) : Logbook where
  clock := timeAfter start span count
  calls := (List.range (count + 1)).map (timeAfter start span)
  pauses := (List.range count).map span

theorem timeAfter_const (start span : Duration) (count : Nat) :
    timeAfter start (fun _ => span) count =
      ⟨start.nanos + count * (World.sleepTime start span).nanos⟩ := by
  rw [timeAfter, Finset.sum_const_nat fun _ _ => rfl, Finset.card_range]

end Logbook

namespace World
variable {start span : Duration}

theorem sleepTime_later (start span : Duration) (millis : Nat) :
    sleepTime ⟨start.nanos + Duration.nanosPerMilli * millis⟩ span = sleepTime start span := by
  apply Duration.ext
  show ((start.nanos + 1000000 * millis + span.asSleep.nanos + 999999) / 1000000 -
      (start.nanos + 1000000 * millis) / 1000000) * 1000000 =
    ((start.nanos + span.asSleep.nanos + 999999) / 1000000 - start.nanos / 1000000) * 1000000
  omega

theorem nanosPerMilli_dvd_sleepTime (start span : Duration) :
    Duration.nanosPerMilli ∣ (sleepTime start span).nanos := Nat.dvd_mul_left _ _

theorem sleepTime_timeAfter (start : Duration) (spans : Nat → Duration) (count : Nat)
    (span : Duration) :
    sleepTime (Logbook.timeAfter start spans count) span = sleepTime start span := by
  obtain ⟨millis, whole⟩ : Duration.nanosPerMilli ∣
      ∑ j ∈ Finset.range count, (sleepTime start (spans j)).nanos :=
    Finset.dvd_sum fun j _ => nanosPerMilli_dvd_sleepTime start (spans j)
  rw [Logbook.timeAfter, whole, sleepTime_later]

theorem sleepTime_of_whole (whole : Duration.nanosPerMilli ∣ start.nanos)
    (short : span ≤ Duration.longestSleep) :
    sleepTime start span = .ofMillis span.ceilMillis := by
  obtain ⟨millis, same⟩ := whole
  have begun : start = .ofMillis millis := Duration.ext (by rw [same, Nat.mul_comm]; rfl)
  have uncut : span.asSleep = span := Duration.ext (Nat.min_eq_left short)
  rw [begun, sleepTime_ofMillis, uncut]

end World

namespace Logbook
variable {start : Duration} {span : Nat → Duration}

theorem called_fresh (start : Duration) (span : Nat → Duration) :
    called { clock := start } = rounds start span 0 := rfl

theorem length_calls_of_called {log : Logbook} {count : Nat}
    (entered : log.called = rounds start span count) : log.calls.length = count := by
  have lengths := congrArg (·.calls.length) entered
  simpa [called, rounds] using lengths

theorem called_slept_rounds (count : Nat) :
    ((rounds start span count).slept (span count)).called = rounds start span (count + 1) := by
  have clock : timeAfter start span count +
      World.sleepTime (timeAfter start span count) (span count) =
        timeAfter start span (count + 1) := by
    rw [World.sleepTime_timeAfter, timeAfter, timeAfter, Finset.sum_range_succ, ← Nat.add_assoc]
    rfl
  simp only [slept, called, rounds, clock, List.range_succ, List.map_append, List.map_cons,
    List.map_nil]

end Logbook

section
variable {P : Nat → Prop} {n last : Nat}

theorem isLeast_here (holds : P n) : IsLeast {k | n ≤ k ∧ P k} n :=
  ⟨⟨Nat.le_refl n, holds⟩, fun _ other => other.1⟩

theorem isLeast_later (fails : ¬ P n) (later : IsLeast {k | n + 1 ≤ k ∧ P k} last) :
    IsLeast {k | n ≤ k ∧ P k} last := by
  obtain ⟨⟨further, holds⟩, least⟩ := later
  refine ⟨⟨by omega, holds⟩, ?_⟩
  rintro k ⟨begins, other⟩
  rcases Nat.eq_or_lt_of_le begins with rfl | beyond
  · exact absurd other fails
  · exact least ⟨beyond, other⟩

end

namespace Program
variable {α : Type} (answers : Nat → (c : Call) → c.Answer) (wall : Timestamp)

/-- The program against a store that answers its calls in this way, where the wall clock showed
`wall` when the other clock was at zero. -/
def rehearse : Program α → StateM Logbook α
  | .done value => pure value
  | .call c next => do rehearse (next (← Logbook.call fun number => answers number c))
  | .clock next => do rehearse (next (← Logbook.now wall))
  | .sleep span next => do
    Logbook.pause span
    rehearse next
  | .measure _ next => rehearse next

theorem rehearse_call (c : Call) (next : c.Answer → Program α) (log : Logbook) :
    rehearse answers wall (.call c next) log =
      rehearse answers wall (next (answers log.calls.length c)) log.called := rfl

theorem rehearse_clock (next : Moment → Program α) (log : Logbook) :
    rehearse answers wall (.clock next) log =
      rehearse answers wall (next ⟨wall.add log.clock, log.clock⟩) log := rfl

theorem rehearse_sleep (span : Duration) (next : Program α) (log : Logbook) :
    rehearse answers wall (.sleep span next) log =
      rehearse answers wall next (log.slept span) :=
  Logbook.pause_bind span (fun _ => rehearse answers wall next) log

end Program

end AgentOperator
