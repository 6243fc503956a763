/-!
Backoff along the Fibonacci numbers: `floor, floor, 2·floor, 3·floor, 5·floor, …` seconds, cut at
`ceiling`. The numbers are 64-bit words; their sum stops at the largest word. The errors of a
resource are counted in a 32-bit word, which begins again at zero after the largest.
-/
namespace AgentOperator

structure Backoff where
  floor : Nat
  ceiling : Nat
  previous : Nat
  current : Nat
  deriving DecidableEq, Repr

namespace Backoff

def largestWord : Nat := 18446744073709551615

/-- A floor of zero is raised to one second, and a ceiling below the floor to the floor. -/
def start (least most : Nat) : Backoff :=
  let floor := max least 1
  { floor, ceiling := max most floor, previous := 0, current := floor }

def delay (b : Backoff) : Nat := min b.current b.ceiling

/-- The state after `delay` was used. At the ceiling it no longer moves. -/
def advance (b : Backoff) : Backoff :=
  if b.current < b.ceiling then
    { b with previous := b.current, current := min (b.previous + b.current) largestWord }
  else b

def reset (b : Backoff) : Backoff :=
  { b with previous := 0, current := b.floor }

def delays (b : Backoff) : Nat → List Nat
  | 0 => []
  | count + 1 => b.delay :: b.advance.delays count

structure History where
  backoff : Backoff
  errorCount : UInt32
  deriving DecidableEq, Repr

namespace History

def start (least most : Nat) : History := ⟨Backoff.start least most, 0⟩

def errors (h : History) : Nat := h.errorCount.toNat

def countError (h : History) : History := { h with errorCount := h.errorCount + 1 }

def advance (h : History) : History := { h with backoff := h.backoff.advance }

def reset (h : History) : History := ⟨h.backoff.reset, 0⟩

end History
end Backoff
end AgentOperator
