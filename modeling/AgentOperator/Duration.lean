/-!
Spans of time in whole nanoseconds. A representable span has at most `2^64 - 1` whole seconds;
operations that could pass that bound stop at it.
-/
namespace AgentOperator

structure Duration where
  nanos : Nat
  deriving DecidableEq, Repr, Inhabited

namespace Duration

def nanosPerSecond : Nat := 1000000000

def nanosPerMilli : Nat := 1000000

def zero : Duration := ⟨0⟩

def ofSecs (secs : Nat) : Duration := ⟨secs * nanosPerSecond⟩

def ofMillis (millis : Nat) : Duration := ⟨millis * nanosPerMilli⟩

def ofParts (secs nanos : Nat) : Duration := ⟨secs * nanosPerSecond + nanos⟩

def secs (d : Duration) : Nat := d.nanos / nanosPerSecond

def subsecNanos (d : Duration) : Nat := d.nanos % nanosPerSecond

/-- Whole milliseconds that cover the span. -/
def ceilMillis (d : Duration) : Nat := (d.nanos + (nanosPerMilli - 1)) / nanosPerMilli

/-- Whole milliseconds that fit the span. -/
def floorMillis (d : Duration) : Nat := d.nanos / nanosPerMilli

def longest : Duration := ofParts 18446744073709551615 (nanosPerSecond - 1)

/-- Nothing sleeps for longer than thirty years of 365 days. -/
def longestSleep : Duration := .ofSecs 946080000

def asSleep (d : Duration) : Duration := ⟨min d.nanos longestSleep.nanos⟩

def double (d : Duration) : Duration := ⟨min (2 * d.nanos) longest.nanos⟩

def add (a b : Duration) : Duration := ⟨a.nanos + b.nanos⟩

instance : Add Duration := ⟨add⟩

instance : LE Duration := ⟨fun a b => a.nanos ≤ b.nanos⟩

instance : LT Duration := ⟨fun a b => a.nanos < b.nanos⟩

instance (a b : Duration) : Decidable (a ≤ b) := inferInstanceAs (Decidable (a.nanos ≤ b.nanos))

instance (a b : Duration) : Decidable (a < b) := inferInstanceAs (Decidable (a.nanos < b.nanos))

@[ext] theorem ext {a b : Duration} (same : a.nanos = b.nanos) : a = b := by
  cases a; cases b; simp_all

theorem secs_ofParts {secs nanos : Nat} (small : nanos < nanosPerSecond) :
    (ofParts secs nanos).secs = secs := by
  simp only [ofParts, Duration.secs, nanosPerSecond] at *
  omega

theorem ofParts_secs_subsecNanos (d : Duration) : ofParts d.secs d.subsecNanos = d := by
  apply ext
  simp only [ofParts, Duration.secs, subsecNanos, nanosPerSecond]
  omega

end Duration
end AgentOperator
