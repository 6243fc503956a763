import AgentOperator.Text.Character
import AgentOperator.Timestamp.Text

/-!
Timestamps in the form that object metadata accepts, wider than RFC 3339: blanks may stand before
every number, around the separators and at the end, numbers may be short, the year may have a sign,
the offset may be written without colon or as `UTC`. What is wrong is found from left to right; a
date that does not exist is noticed last.
-/
namespace AgentOperator.Timestamp

inductive Unreadable where
  | tooShort
  | invalid
  | outOfRange
  | tooLong
  | impossible
  deriving DecidableEq, Repr

def Unreadable.message : Unreadable → String
  | .tooShort => "premature end of input"
  | .invalid => "input contains invalid characters"
  | .outOfRange => "input is out of range"
  | .tooLong => "trailing input"
  | .impossible => "no possible date and time matching input"

namespace Relaxed

/-- A number after blanks, of at most so many digits if a count is given. -/
def number (most : Option Nat) (chars : List Char) : Except Unreadable (Nat × List Char) :=
  match chars with
  | [] => .error .tooShort
  | c :: _ =>
    if !isDigit c then .error .invalid
    else
      let digits := chars.takeWhile isDigit
      let kept := digits.take (most.getD digits.length)
      .ok (Timestamp.number kept, chars.drop kept.length)

def part (low high : Nat) (chars : List Char) : Except Unreadable (Nat × List Char) := do
  let (value, rest) ← number (some 2) (Text.trimStart chars)
  if low ≤ value ∧ value ≤ high then return (value, rest) else .error .outOfRange

def longestYear : Int := 2147483648

/-- With a sign the year may have any number of digits. -/
def year (chars : List Char) : Except Unreadable (Int × List Char) := do
  let (value, rest) ← match Text.trimStart chars with
    | '-' :: rest => (number none rest).map fun (value, rest) => (-(value : Int), rest)
    | '+' :: rest => (number none rest).map fun (value, rest) => ((value : Int), rest)
    | chars => (number (some 4) chars).map fun (value, rest) => ((value : Int), rest)
  if -longestYear ≤ value ∧ value < longestYear then return (value, rest) else .error .outOfRange

def mark (wanted : Char) (chars : List Char) : Except Unreadable (List Char) :=
  match Text.trimStart chars with
  | [] => .error .tooShort
  | c :: rest => if c = wanted then .ok rest else .error .invalid

def divider : List Char → Except Unreadable (List Char)
  | [] => .error .tooShort
  | c :: rest => if c = 'T' ∨ c = 't' ∨ c = ' ' then .ok rest else .error .invalid

/-- The fraction in nanoseconds; digits after the ninth are cut. -/
def fraction : List Char → Except Unreadable (Nat × List Char)
  | '.' :: rest => do
    let (_, after) ← number (some 9) rest
    let digits := rest.length - after.length
    let value := Timestamp.number (rest.take digits)
    return (value * Nat.pow 10 (9 - digits), after.dropWhile isDigit)
  | chars => .ok (0, chars)

def twoDigits (chars : List Char) : Except Unreadable (Nat × Nat × List Char) :=
  match chars with
  | a :: b :: rest =>
    if isDigit a && isDigit b then .ok (digitValue a, digitValue b, rest) else .error .invalid
  | [a] => if a.utf8Size = 1 then .error .tooShort else .error .invalid
  | [] => .error .tooShort

/-- Hours and minutes, with any colons and blanks between them or none. -/
def clockOffset (sign : Int) (chars : List Char) : Except Unreadable (Int × List Char) := do
  let (tens, ones, rest) ← twoDigits chars
  let hours := 10 * tens + ones
  let (tens, ones, rest) ← twoDigits (rest.dropWhile fun c => c = ':' || Text.isBlank c)
  if 6 ≤ tens then .error .outOfRange
  else return (sign * (hours * 3600 + (10 * tens + ones) * 60 : Nat), rest)

def offset (chars : List Char) : Except Unreadable (Int × List Char) :=
  match chars with
  | [] => .error .tooShort
  | c :: rest =>
    if (chars.take 3).map Char.toUpper = ['U', 'T', 'C'] then .ok (0, chars.drop 3)
    else if c = 'Z' ∨ c = 'z' then .ok (0, rest)
    else if c = '+' then clockOffset 1 rest
    else if c = '-' ∨ c = '\u2212' then clockOffset (-1) rest
    else .error .invalid

end Relaxed

open Relaxed in
/-- Second 60 is a leap second, which only a last second of a minute can have. -/
def readRelaxed (text : String) : Except Unreadable Timestamp := do
  let (year, rest) ← year text.toList
  let (month, rest) ← part 1 12 (← mark '-' rest)
  let (day, rest) ← part 1 31 (← mark '-' rest)
  let (hour, rest) ← part 0 23 (← divider rest)
  let (minute, rest) ← part 0 59 (← mark ':' rest)
  let (second, rest) ← part 0 60 (← mark ':' rest)
  let (fraction, rest) ← fraction rest
  let (offset, rest) ← offset (Text.trimStart rest)
  let date : Date := ⟨year, month, day⟩
  let seconds : Nat := hour * 3600 + minute * 60 + min second 59
  let moment (offset : Int) : Timestamp :=
    ⟨date.toDays * secondsPerDay + seconds - offset,
      if second = 60 then nanosPerSecond + fraction else fraction⟩
  if Text.trimStart rest ≠ [] then .error .tooLong
  else if ¬ date.Valid ∨ secondsPerDay ≤ (offset.natAbs : Int) ∨ ¬ (moment 0).InCalendar then
    .error .outOfRange
  else if ¬ (moment offset).InCalendar then .error .impossible
  else return moment offset

end AgentOperator.Timestamp
