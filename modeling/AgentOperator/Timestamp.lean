import AgentOperator.Duration
import AgentOperator.Timestamp.Calendar

/-!
Instants of Coordinated Universal Time to the nanosecond. An instant inside a leap second belongs to
the second before it and has a nanosecond part of a whole second or more.
-/
namespace AgentOperator

structure Timestamp where
  /-- Seconds since 1970-01-01T00:00:00Z, leap seconds not counted. -/
  seconds : Int
  nanos : Nat
  deriving DecidableEq, Repr, Inhabited

namespace Timestamp

def nanosPerSecond : Nat := 1000000000

def secondsPerDay : Int := 86400

def isLeap (t : Timestamp) : Bool := nanosPerSecond ≤ t.nanos

def total (t : Timestamp) : Int := t.seconds * nanosPerSecond + t.nanos

def ofTotal (total : Int) : Timestamp :=
  ⟨total / nanosPerSecond, (total % nanosPerSecond).toNat⟩

instance : LE Timestamp :=
  ⟨fun a b => a.seconds < b.seconds ∨ (a.seconds = b.seconds ∧ a.nanos ≤ b.nanos)⟩

instance (a b : Timestamp) : Decidable (a ≤ b) := by unfold LE.le instLE; infer_instance

/-- Moves by a signed count of nanoseconds. A move that stays inside a leap second keeps it; one
that leaves it forward goes on from its start, one that leaves it backward from its end. -/
def shift (t : Timestamp) (nanos : Int) : Timestamp :=
  let wholeSeconds := nanos.tdiv nanosPerSecond
  let part := nanos.tmod nanosPerSecond
  if t.isLeap then
    if 0 < wholeSeconds ∨ 2 * (nanosPerSecond : Int) ≤ t.nanos + part then
      ofTotal (t.seconds * nanosPerSecond + (t.nanos - nanosPerSecond : Nat) + nanos)
    else if wholeSeconds < 0 then
      ofTotal ((t.seconds + 1) * nanosPerSecond + (t.nanos - nanosPerSecond : Nat) + nanos)
    else ⟨t.seconds, (t.nanos + part).toNat⟩
  else ofTotal (t.total + nanos)

/-- The signed nanoseconds from `b` to `a`. A leap second between the times of day is counted. -/
def since (a b : Timestamp) : Int :=
  let dayTime (t : Timestamp) := t.seconds % secondsPerDay
  let leap : Int :=
    if dayTime b < dayTime a then if b.isLeap then 1 else 0
    else if dayTime a < dayTime b then if a.isLeap then -1 else 0
    else 0
  (a.seconds - b.seconds + leap) * nanosPerSecond + ((a.nanos : Int) - b.nanos)

def ofDays (days : Int) : Timestamp := ⟨days * secondsPerDay, 0⟩

def earliest : Timestamp := ofDays (Date.toDays ⟨-262143, 1, 1⟩)

def lastDay : Int := Date.toDays ⟨262142, 12, 31⟩

def InCalendar (t : Timestamp) : Prop :=
  earliest.seconds ≤ t.seconds ∧ t.seconds < (lastDay + 1) * secondsPerDay

instance (t : Timestamp) : Decidable t.InCalendar := by unfold InCalendar; infer_instance

/-- As `shift`, where a result outside the calendar is refused. -/
def shift? (t : Timestamp) (nanos : Int) : Option Timestamp :=
  let moved := t.shift nanos
  if moved.InCalendar then some moved else none

def add (t : Timestamp) (d : Duration) : Timestamp := t.shift d.nanos

end Timestamp
end AgentOperator
