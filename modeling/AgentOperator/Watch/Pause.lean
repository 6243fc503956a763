import AgentOperator.Retry
import AgentOperator.World

/-!
Pauses of a loop's watches after faults. A fault stops the reading of all watches of the loop. The
pauses double from 800 ms up to 30 s and start over only after two minutes without a fault.
-/
namespace AgentOperator

structure Pause where
  /-- Faults since the pauses last started over. -/
  faults : Nat := 0
  lastFault : Option Duration := none
  ends : Duration := .zero
  deriving DecidableEq, Repr

namespace Pause

def longest : Duration := .ofSecs 30

/-- Time without a fault after which the pauses start over. -/
def forgetAfter : Duration := .ofSecs 120

/-- The pause after a fault with so many faults before it. Doubling is done on binary32 numbers of
seconds, of which 13421773 / 2^24 is the one nearest to 0.8. -/
def length : Nat → Duration
  | 0 => .ofMillis 800
  | faults =>
    let nanos := 13421773 * Nat.pow 2 faults * Duration.nanosPerSecond
    ⟨min (roundQuotient nanos (Nat.pow 2 24)) longest.nanos⟩

theorem length_le_longest (faults : Nat) : length faults ≤ longest :=
  match faults with
  | 0 => by decide
  | _ + 1 => Nat.min_le_right _ _

def holds (p : Pause) (now : Duration) : Bool := now < p.ends

def fault (p : Pause) (now : Duration) : Pause :=
  let stale := p.lastFault.any fun last => last + forgetAfter < now
  let faults := if stale then 0 else p.faults
  { faults := faults + 1
    lastFault := some now
    ends := now + World.sleepTime now (length faults) }

end Pause
end AgentOperator
