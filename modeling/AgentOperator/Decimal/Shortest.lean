import AgentOperator.Binary64

/-!
The shortest decimal that reads back as a given binary64 value. The value is `m · 2^q`; the reals
that round to it form an interval whose ends count when `m` is even. For one digit, two digits and
so on, the two neighbours of the value on that decimal grid are tried in exact arithmetic.
-/
namespace AgentOperator

/-- Stands for `± digits · 10^exponent`. -/
structure Decimal where
  negative : Bool
  digits : Nat
  exponent : Int
  deriving DecidableEq, Repr

namespace Decimal

inductive Reading where
  | nan
  | infinite (negative : Bool)
  | finite (value : Decimal)
  deriving DecidableEq, Repr

/-- The part of a positive binary64 value that decides its decimal form, in quarter units. -/
structure Interval where
  low : Nat
  value : Nat
  high : Nat
  closed : Bool
  /-- Power of two of one quarter unit. -/
  scale : Int
  deriving Repr

/-- Below a power of two the numbers lie twice as close. -/
def Interval.of (b : Binary64) : Interval :=
  { low := if b.fraction = 0 ∧ 1 < b.exponent then 4 * b.mantissa - 1 else 4 * b.mantissa - 2
    value := 4 * b.mantissa
    high := 4 * b.mantissa + 2
    closed := b.mantissa % 2 = 0
    scale := (b.power : Int) - Binary64.bias - 2 }

/-- A negative exponent counts as zero. -/
def pow (base : Nat) (exponent : Int) : Nat := Nat.pow base exponent.toNat

/-- The largest `e` with `10^e ≤ num / den`. -/
def magnitude (num den : Nat) : Int :=
  if den ≤ num then (Nat.toDigits 10 (num / den)).length - 1
  else -(((List.range 400).find? fun j => den ≤ num * Nat.pow 10 j).getD 0 : Nat)

/-- The better of the two neighbours with the given number of digits, if one lies in the interval.
-/
def Interval.onGrid? (i : Interval) (top : Int) (count : Nat) : Option (Nat × Int) :=
  let exponent := top - count + 1
  let num := pow 2 i.scale * pow 10 (-exponent)
  let den := pow 2 (-i.scale) * pow 10 exponent
  let below := i.value * num / den
  let inside (d : Nat) : Bool :=
    if i.closed then i.low * num ≤ d * den && d * den ≤ i.high * num
    else i.low * num < d * den && d * den < i.high * num
  let above := below + 1
  match inside below && 0 < below, inside above with
  | true, true =>
    let gapBelow := i.value * num - below * den
    let gapAbove := above * den - i.value * num
    if gapBelow < gapAbove ∨ (gapBelow = gapAbove ∧ below % 2 = 0) then some (below, exponent)
    else some (above, exponent)
  | true, false => some (below, exponent)
  | false, true => some (above, exponent)
  | false, false => none

def dropZeros : Nat → Nat → Int → Nat × Int
  | 0, digits, exponent => (digits, exponent)
  | n + 1, digits, exponent =>
    if digits % 10 = 0 then dropZeros n (digits / 10) (exponent + 1) else (digits, exponent)

def Interval.shortest (i : Interval) : Nat × Int :=
  let top := magnitude (i.value * pow 2 i.scale) (pow 2 (-i.scale))
  let found := (List.range 18).findSome? fun n => i.onGrid? top (n + 1)
  let (digits, exponent) := found.getD (0, 0)
  dropZeros 20 digits exponent

def ofBits (bits : UInt64) : Reading :=
  let b := Binary64.ofBits bits
  if !b.isFinite then
    if b.fraction = 0 then .infinite b.negative else .nan
  else if b.mantissa = 0 then .finite ⟨b.negative, 0, 0⟩
  else
    let (digits, power) := (Interval.of b).shortest
    .finite ⟨b.negative, digits, power⟩

def zeros (count : Nat) : String := String.ofList (List.replicate count '0')

def positional (value : Decimal) : String :=
  let sign := if value.negative then "-" else ""
  let digits := Nat.toDigits 10 value.digits
  let point := digits.length + value.exponent
  let body :=
    if value.digits = 0 then "0"
    else if 0 ≤ value.exponent then String.ofList digits ++ zeros value.exponent.toNat
    else if 0 < point then
      String.ofList (digits.take point.toNat) ++ "." ++ String.ofList (digits.drop point.toNat)
    else "0." ++ zeros (-point).toNat ++ String.ofList digits
  sign ++ body

/-- Positional from `1e-5` up to sixteen digits before the point, with a signed exponent outside; a
positional integer ends in `.0`. -/
def compact (value : Decimal) : String :=
  let sign := if value.negative then "-" else ""
  let digits := Nat.toDigits 10 value.digits
  let point := digits.length + value.exponent
  if value.digits = 0 then sign ++ "0.0"
  else if 0 ≤ value.exponent ∧ point ≤ 16 then positional value ++ ".0"
  else if -5 < point ∧ point ≤ 16 then positional value
  else
    let power := (if 0 < point then "+" else "") ++ toString (point - 1)
    let head := String.ofList (digits.take 1)
    let tail := String.ofList (digits.drop 1)
    sign ++ head ++ (if tail.isEmpty then "" else "." ++ tail) ++ "e" ++ power

end Decimal
end AgentOperator
