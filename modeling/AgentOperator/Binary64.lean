/-!
The parts of a binary64 number. A finite one is `± mantissa · 2^(power - 1075)`, where numbers of
the lowest exponent have no hidden bit.
-/
namespace AgentOperator

structure Binary64 where
  negative : Bool
  exponent : Nat
  fraction : Nat
  deriving DecidableEq, Repr

namespace Binary64

def fractions : Nat := Nat.pow 2 52

def exponents : Nat := Nat.pow 2 11

def ofBits (bits : UInt64) : Binary64 :=
  let word := bits.toNat
  { negative := exponents * fractions ≤ word
    exponent := word / fractions % exponents
    fraction := word % fractions }

def isFinite (b : Binary64) : Bool := b.exponent ≠ exponents - 1

def mantissa (b : Binary64) : Nat :=
  if b.exponent = 0 then b.fraction else fractions + b.fraction

def power (b : Binary64) : Nat := max b.exponent 1

/-- Power of two, below the power, of a mantissa's last bit. -/
def bias : Nat := 1075

end Binary64
end AgentOperator
