import AgentOperator.Binary64
import AgentOperator.Duration

/-!
Bounded retry. A failed attempt that is worth another one is followed by a pause; the pauses grow by
a factor up to a limit. The factor is a binary64 number and so is the product, which is brought back
to whole nanoseconds by rounding to the nearest, a tie to the even one. A policy has a factor that
is not negative and a limit below `2^64` seconds, so that each product, cut at the limit, is a span
of time.
-/
namespace AgentOperator

structure RetryPolicy where
  /-- All attempts, the first included; none counts as one. -/
  maxAttempts : Nat := 5
  initialDelay : Duration := .ofMillis 10
  maxDelay : Duration := .ofSecs 1
  multiplier : Float := 2.0

def Duration.toSeconds (d : Duration) : Float :=
  d.secs.toUInt64.toFloat + d.subsecNanos.toUInt32.toFloat / 1000000000.0

/-- `numerator / denominator` to the nearest whole number, a tie to the even one. -/
def roundQuotient (numerator denominator : Nat) : Nat :=
  let below := numerator / denominator
  let rest := 2 * (numerator % denominator)
  if rest < denominator ∨ (rest = denominator ∧ below % 2 = 0) then below else below + 1

/-- The nearest span of whole nanoseconds. A negative number, what is no number and what is too
large are no span of time. -/
def Duration.ofSeconds? (seconds : Float) : Option Duration :=
  let b := Binary64.ofBits seconds.toBits
  if !b.isFinite || (b.negative && b.mantissa ≠ 0) then none
  else
    let nanos :=
      if Binary64.bias ≤ b.power then
        b.mantissa * nanosPerSecond * Nat.pow 2 (b.power - Binary64.bias)
      else roundQuotient (b.mantissa * nanosPerSecond) (Nat.pow 2 (Binary64.bias - b.power))
    if nanos ≤ longest.nanos then some ⟨nanos⟩ else none

namespace RetryPolicy

/-- Of a number and what is no number the number counts. -/
def lesser (a b : Float) : Float :=
  if a.isNaN then b else if b.isNaN then a else if b < a then b else a

/-- The pause after one of length `delay`, if there is such a span of time. -/
def nextDelay? (policy : RetryPolicy) (delay : Duration) : Option Duration :=
  Duration.ofSeconds? (lesser (delay.toSeconds * policy.multiplier) policy.maxDelay.toSeconds)

/-- The pause that follows one of length `delay`. Of a policy that allows no such span of time only
the limit is left. -/
def nextDelay (policy : RetryPolicy) (delay : Duration) : Duration :=
  (policy.nextDelay? delay).getD policy.maxDelay

end RetryPolicy

section
variable {m : Type → Type} [Monad m] {ε α : Type}

/-- At most `retries` further attempts after this one, the first of them after `delay`. -/
def RetryPolicy.attempt (policy : RetryPolicy) (retryable : ε → Bool) (pause : Duration → m Unit)
    (operation : m (Except ε α)) : Nat → Duration → m (Except ε α)
  | 0, _ => operation
  | retries + 1, delay => do
    match ← operation with
    | .ok value => return .ok value
    | .error error =>
      if retryable error then
        pause delay
        policy.attempt retryable pause operation retries (policy.nextDelay delay)
      else return .error error

def RetryPolicy.run (policy : RetryPolicy) (retryable : ε → Bool) (pause : Duration → m Unit)
    (operation : m (Except ε α)) : m (Except ε α) :=
  policy.attempt retryable pause operation (policy.maxAttempts - 1) policy.initialDelay

end
end AgentOperator
