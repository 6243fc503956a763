import AgentOperator.Timestamp

/-!
Timestamps as text, in the profile of RFC 3339. Reading takes any offset and any count of fraction
digits; writing gives UTC and the fraction in none, three, six or nine digits.
-/
namespace AgentOperator.Timestamp

def isDigit (c : Char) : Bool := '0' ≤ c ∧ c ≤ '9'

def digitValue (c : Char) : Nat := c.toNat - 48

def number (digits : List Char) : Nat := digits.foldl (fun value c => value * 10 + digitValue c) 0

def readDigits? : Nat → List Char → Option (Nat × List Char)
  | count, chars =>
    let digits := chars.take count
    if digits.length = count ∧ digits.all isDigit then some (number digits, chars.drop count)
    else none

def readChar? (wanted : List Char) : List Char → Option (List Char)
  | c :: rest => if c ∈ wanted then some rest else none
  | [] => none

/-- The fraction in nanoseconds; digits after the ninth are cut. -/
def readFraction? : List Char → Option (Nat × List Char)
  | '.' :: rest =>
    let digits := rest.takeWhile isDigit
    if digits.isEmpty then none
    else
      let kept := digits.take 9
      some (number kept * Nat.pow 10 (9 - kept.length), rest.dropWhile isDigit)
  | chars => some (0, chars)

/-- The offset from UTC in seconds; the minus may also be the mathematical sign. -/
def readOffset? : List Char → Option (Int × List Char)
  | [] => none
  | c :: rest =>
    if c = 'Z' ∨ c = 'z' then some (0, rest)
    else do
      let sign : Int ←
        if c = '+' then some 1 else if c = '-' ∨ c = '\u2212' then some (-1) else none
      let (hours, rest) ← readDigits? 2 rest
      let rest ← readChar? [':'] rest
      let (minutes, rest) ← readDigits? 2 rest
      if hours < 24 ∧ minutes < 60 then some (sign * (hours * 3600 + minutes * 60 : Nat), rest)
      else none

/-- Second 60 is the leap second after second 59. -/
def read? (text : String) : Option Timestamp := do
  let (year, rest) ← readDigits? 4 text.toList
  let rest ← readChar? ['-'] rest
  let (month, rest) ← readDigits? 2 rest
  let rest ← readChar? ['-'] rest
  let (day, rest) ← readDigits? 2 rest
  let rest ← readChar? ['T', 't', ' '] rest
  let (hour, rest) ← readDigits? 2 rest
  let rest ← readChar? [':'] rest
  let (minute, rest) ← readDigits? 2 rest
  let rest ← readChar? [':'] rest
  let (second, rest) ← readDigits? 2 rest
  let (fraction, rest) ← readFraction? rest
  let (offset, rest) ← readOffset? rest
  let date : Date := ⟨year, month, day⟩
  if rest = [] ∧ date.Valid ∧ hour < 24 ∧ minute < 60 ∧ second ≤ 60 then
    let seconds : Nat := hour * 3600 + minute * 60 + min second 59
    some ⟨date.toDays * secondsPerDay + seconds - offset,
      if second = 60 then nanosPerSecond + fraction else fraction⟩
  else none

def padded (width value : Nat) : List Char :=
  let digits := Nat.toDigits 10 value
  List.replicate (width - digits.length) '0' ++ digits

/-- Years outside 0 to 9999 carry a sign. -/
def yearText (year : Int) : List Char :=
  if 0 ≤ year ∧ year ≤ 9999 then padded 4 year.toNat
  else if year < 0 then '-' :: padded 4 year.natAbs
  else '+' :: padded 4 year.natAbs

def fractionText (nanos : Nat) : List Char :=
  if nanos = 0 then []
  else if nanos % 1000000 = 0 then '.' :: padded 3 (nanos / 1000000)
  else if nanos % 1000 = 0 then '.' :: padded 6 (nanos / 1000)
  else '.' :: padded 9 nanos

def clockText (t : Timestamp) : List Char × Nat :=
  let date := Date.ofDays (t.seconds / secondsPerDay)
  let time := (t.seconds % secondsPerDay).toNat
  let leap := t.isLeap
  let second := time % 60 + if leap then 1 else 0
  (yearText date.year ++ ['-'] ++ padded 2 date.month ++ ['-'] ++ padded 2 date.day ++ ['T'] ++
    padded 2 (time / 3600) ++ [':'] ++ padded 2 (time / 60 % 60) ++ [':'] ++ padded 2 second,
    if leap then t.nanos - nanosPerSecond else t.nanos)

def render (t : Timestamp) : String :=
  let (clock, nanos) := t.clockText
  String.ofList (clock ++ fractionText nanos ++ ['+', '0', '0', ':', '0', '0'])

/-- Cut to whole seconds and marked `Z`, as object metadata has it. -/
def renderSeconds (t : Timestamp) : String :=
  String.ofList (t.clockText.1 ++ ['Z'])

end AgentOperator.Timestamp
