import AgentOperator.Json.Fault

/-!
The parts of a JSON text that are no lists or objects: blanks, strings, numbers and words. A number
without point or exponent that fits 64 bits is an integer; any other is binary64, found as a 64-bit
significand times or divided by one power of ten. What is not kept is checked less strictly: any
number in the right form will do, and so will a half of a surrogate pair.
-/
namespace AgentOperator.Json

def isBlank (c : Char) : Bool := c = ' ' ∨ c = '\n' ∨ c = '\t' ∨ c = '\r'

def skipBlanks (chars : List Char) : List Char := chars.dropWhile isBlank

def isDigit (c : Char) : Bool := '0' ≤ c ∧ c ≤ '9'

def digitValue (c : Char) : Nat := c.toNat - 48

/-! Strings -/

def hexValue? (c : Char) : Option Nat :=
  if isDigit c then some (c.toNat - 48)
  else if 'a' ≤ c ∧ c ≤ 'f' then some (c.toNat - 87)
  else if 'A' ≤ c ∧ c ≤ 'F' then some (c.toNat - 55)
  else none

def hexUnit? (a b c d : Char) : Option Nat := do
  return 4096 * (← hexValue? a) + 256 * (← hexValue? b) + 16 * (← hexValue? c) + (← hexValue? d)

def scanHex (chars : List Char) : Except Failure (Nat × List Char) :=
  if byteSize chars < 4 then failAt .endInString []
  else
    match chars with
    | a :: b :: c :: d :: rest =>
      match hexUnit? a b c d with
      | some unit => .ok (unit, rest)
      | none => .error ⟨.invalidEscape, chars, 4⟩
    | _ => .error ⟨.invalidEscape, chars, 4⟩

def isLeadingSurrogate (unit : Nat) : Bool := 0xD800 ≤ unit ∧ unit < 0xDC00

def isTrailingSurrogate (unit : Nat) : Bool := 0xDC00 ≤ unit ∧ unit < 0xE000

/-- The second half of a pair, after the escape of the first. -/
def scanLowSurrogate (chars : List Char) : Except Failure (Nat × List Char) :=
  match chars with
  | [] => failAt .endInString []
  | '\\' :: [] => failAt .endInString []
  | '\\' :: 'u' :: rest => do
    let (unit, after) ← scanHex rest
    if isTrailingSurrogate unit then return (unit, after) else failAt .loneSurrogate after
  | '\\' :: rest => failOn .shortHexEscape rest
  | other => failOn .shortHexEscape other

/-- The character of an escape by code units, after its `u`. -/
def scanCodePoint (chars : List Char) : Except Failure (Char × List Char) := do
  let (unit, after) ← scanHex chars
  if isTrailingSurrogate unit then failAt .loneSurrogate after
  else if isLeadingSurrogate unit then
    let (low, after) ← scanLowSurrogate after
    return (Char.ofNat (0x10000 + (unit - 0xD800) * 1024 + (low - 0xDC00)), after)
  else return (Char.ofNat unit, after)

def simpleEscape? : Char → Option Char
  | '"' => some '"'
  | '\\' => some '\\'
  | '/' => some '/'
  | 'b' => some (Char.ofNat 8)
  | 'f' => some (Char.ofNat 12)
  | 'n' => some '\n'
  | 'r' => some '\r'
  | 't' => some '\t'
  | _ => none

/-- The text up to the closing quote; `fuel` bounds the characters. -/
def scanText (fuel : Nat) (chars : List Char) : Except Failure (List Char × List Char) :=
  match fuel with
  | 0 => failAt .endInString []
  | fuel + 1 =>
    match chars with
    | [] => failAt .endInString []
    | '"' :: rest => .ok ([], rest)
    | '\\' :: [] => failAt .endInString []
    | '\\' :: 'u' :: rest => do
      let (c, rest) ← scanCodePoint rest
      let (text, after) ← scanText fuel rest
      return (c :: text, after)
    | '\\' :: c :: rest =>
      match simpleEscape? c with
      | none => failOn .invalidEscape (c :: rest)
      | some escaped => do
        let (text, after) ← scanText fuel rest
        return (escaped :: text, after)
    | c :: rest =>
      if c.toNat < 32 then failOn .controlCharacter (c :: rest)
      else do
        let (text, after) ← scanText fuel rest
        return (c :: text, after)

def scanString (chars : List Char) : Except Failure (String × List Char) := do
  let (text, after) ← scanText (chars.length + 1) chars
  return (String.ofList text, after)

def skipText (fuel : Nat) (chars : List Char) : Except Failure (List Char) :=
  match fuel with
  | 0 => failAt .endInString []
  | fuel + 1 =>
    match chars with
    | [] => failAt .endInString []
    | '"' :: rest => .ok rest
    | '\\' :: [] => failAt .endInString []
    | '\\' :: 'u' :: rest => do
      let (_, rest) ← scanHex rest
      skipText fuel rest
    | '\\' :: c :: rest =>
      if (simpleEscape? c).isNone then failOn .invalidEscape (c :: rest) else skipText fuel rest
    | c :: rest =>
      if c.toNat < 32 then failAt .controlCharacter (c :: rest) else skipText fuel rest

def skipString (chars : List Char) : Except Failure (List Char) := skipText (chars.length + 1) chars

/-! Numbers -/

def wordLimit : Nat := 18446744073709551616

/-- Reads digits into a significand below `wordLimit`; digits that no longer fit are counted. -/
def significand : List Char → Nat → Nat × Nat
  | [], value => (value, 0)
  | c :: rest, value =>
    let next := value * 10 + digitValue c
    if next < wordLimit then significand rest next else (value, rest.length + 1)

/-- The power of ten is taken from the table `10^0` to `10^308`; none means out of range. -/
def scaleFloat : Nat → Float → Int → Option Float
  | 0, value, _ => some value
  | fuel + 1, value, exponent =>
    if exponent.natAbs ≤ 308 then
      let power := Float.ofScientific 1 false exponent.natAbs
      if 0 ≤ exponent then
        let scaled := value * power
        if scaled.isInf then none else some scaled
      else some (value / power)
    else if value == 0.0 then some value
    else if 0 ≤ exponent then none
    else scaleFloat fuel (value / Float.ofScientific 1 false 308) (exponent + 308)

def floatOf (negative : Bool) (digits : Nat) (exponent : Int) (rest : List Char) :
    Except Failure (Json × List Char) :=
  match scaleFloat 64 digits.toUInt64.toFloat exponent with
  | none => failAt .outOfRange rest
  | some value => .ok (.float (if negative then -value else value).toBits, rest)

def exponentLimit : Nat := 2147483648

def exponentSign : List Char → Bool × List Char
  | '+' :: rest => (false, rest)
  | '-' :: rest => (true, rest)
  | chars => (false, chars)

def scanExponent (negative : Bool) (digits : Nat) (shift : Int) (chars : List Char) :
    Except Failure (Json × List Char) :=
  let (down, chars) := exponentSign chars
  match chars with
  | [] => failAt .endInValue []
  | c :: rest =>
    if !isDigit c then failOn .invalidNumber (c :: rest)
    else
      let text := (chars.takeWhile isDigit).map digitValue
      let after := chars.dropWhile isDigit
      let power := text.foldl (fun value d => min (value * 10 + d) exponentLimit) 0
      if exponentLimit ≤ power then
        if digits ≠ 0 ∧ !down then failAt .outOfRange after
        else .ok (.float (if negative then (-0.0 : Float) else 0.0).toBits, after)
      else floatOf negative digits (if down then shift - power else shift + power) after

def scanFraction (negative : Bool) (digits : Nat) (shift : Int) (chars : List Char) :
    Except Failure (Json × List Char) :=
  let text := chars.takeWhile isDigit
  let after := chars.dropWhile isDigit
  match text, after with
  | [], [] => failAt .endInValue []
  | [], _ => failOn .invalidNumber after
  | _, _ =>
    let (digits, dropped) := significand text digits
    let shift := shift - (text.length - dropped : Nat)
    match after with
    | 'e' :: rest => scanExponent negative digits shift rest
    | 'E' :: rest => scanExponent negative digits shift rest
    | _ => floatOf negative digits shift after

def integer (negative : Bool) (value : Nat) : Json :=
  if !negative then .int value
  else if value = 0 ∨ wordLimit / 2 < value then .float (-(value.toUInt64.toFloat)).toBits
  else .int (-value)

def scanNumber (negative : Bool) (chars : List Char) : Except Failure (Json × List Char) :=
  match chars with
  | [] => failAt .endInValue []
  | c :: rest =>
    if !isDigit c then failOn .invalidNumber (c :: rest)
    else if c = '0' ∧ (rest.head?.any isDigit) then failOn .invalidNumber rest
    else
      let text := chars.takeWhile isDigit
      let after := chars.dropWhile isDigit
      let (digits, dropped) := significand text 0
      match after with
      | '.' :: rest => scanFraction negative digits dropped rest
      | 'e' :: rest => scanExponent negative digits dropped rest
      | 'E' :: rest => scanExponent negative digits dropped rest
      | _ =>
        if dropped = 0 then .ok (integer negative digits, after)
        else floatOf negative digits dropped after

def skipExponent (chars : List Char) : Except Failure (List Char) :=
  let chars := (exponentSign chars).2
  if chars.head?.any isDigit then .ok (chars.dropWhile isDigit) else failOn .invalidNumber chars

def skipScale (chars : List Char) : Except Failure (List Char) :=
  match chars with
  | 'e' :: rest => skipExponent rest
  | 'E' :: rest => skipExponent rest
  | _ => .ok chars

def skipNumber (chars : List Char) : Except Failure (List Char) :=
  match chars with
  | [] => failAt .invalidNumber []
  | c :: rest =>
    if !isDigit c then failOn .invalidNumber (c :: rest)
    else if c = '0' ∧ (rest.head?.any isDigit) then failOn .invalidNumber rest
    else
      match chars.dropWhile isDigit with
      | '.' :: rest =>
        if rest.head?.any isDigit then skipScale (rest.dropWhile isDigit)
        else failOn .invalidNumber rest
      | after => skipScale after

/-! Words -/

def scanWord : List Char → Json → List Char → Except Failure (Json × List Char)
  | [], value, rest => .ok (value, rest)
  | _ :: _, _, [] => failAt .endInValue []
  | expected :: word, value, c :: rest =>
    if c = expected then scanWord word value rest else failOn .expectedWord (c :: rest)

def scanNull (chars : List Char) : Except Failure (Json × List Char) :=
  scanWord ['u', 'l', 'l'] .null chars

def scanTrue (chars : List Char) : Except Failure (Json × List Char) :=
  scanWord ['r', 'u', 'e'] (.bool true) chars

def scanFalse (chars : List Char) : Except Failure (Json × List Char) :=
  scanWord ['a', 'l', 's', 'e'] (.bool false) chars

end AgentOperator.Json
