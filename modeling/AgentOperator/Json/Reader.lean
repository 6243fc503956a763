import AgentOperator.Json.Lexeme

/-!
JSON text to values, and past values that are not kept. Nesting is limited for values; what is
passed over may be nested at will. Past a value a comma may not be left standing in a list either:
what follows it is no value.
-/
namespace AgentOperator.Json

mutual

/-- One value; `fuel` bounds the steps and `depth` the nesting that is left. -/
def scanValue (fuel depth : Nat) (chars : List Char) : Except Failure (Json × List Char) :=
  match fuel with
  | 0 => failAt .endInValue []
  | fuel + 1 =>
    match skipBlanks chars with
    | [] => failAt .endInValue []
    | 'n' :: rest => scanNull rest
    | 't' :: rest => scanTrue rest
    | 'f' :: rest => scanFalse rest
    | '-' :: rest => scanNumber true rest
    | '"' :: rest => do
      let (text, after) ← scanString rest
      return (.str text, after)
    | '[' :: rest =>
      if depth ≤ 1 then failAt .tooDeep rest
      else do
        let (items, after) ← scanItems fuel (depth - 1) true rest
        return (.arr items, after)
    | '\x7b' :: rest =>
      if depth ≤ 1 then failAt .tooDeep rest
      else do
        let (fields, after) ← scanMembers fuel (depth - 1) true rest
        return (object fields, after)
    | c :: rest =>
      if isDigit c then scanNumber false (c :: rest) else failOn .expectedValue (c :: rest)

def scanItems (fuel depth : Nat) (first : Bool) (chars : List Char) :
    Except Failure (List Json × List Char) :=
  match fuel with
  | 0 => failAt .endInList []
  | fuel + 1 =>
    match skipBlanks chars, first with
    | [], _ => failAt .endInList []
    | ']' :: rest, _ => .ok ([], rest)
    | ',' :: rest, false =>
      match skipBlanks rest with
      | ']' :: after => failOn .trailingComma (']' :: after)
      | _ => scanItem fuel depth rest
    | other, false => failOn .expectedListEnd other
    | _, true => scanItem fuel depth chars

def scanItem (fuel depth : Nat) (chars : List Char) : Except Failure (List Json × List Char) :=
  match fuel with
  | 0 => failAt .endInList []
  | fuel + 1 => do
    let (item, after) ← scanValue fuel depth chars
    let (items, after) ← scanItems fuel depth false after
    return (item :: items, after)

def scanMembers (fuel depth : Nat) (first : Bool) (chars : List Char) :
    Except Failure (List (String × Json) × List Char) :=
  match fuel with
  | 0 => failAt .endInObject []
  | fuel + 1 =>
    match skipBlanks chars, first with
    | [], _ => failAt .endInObject []
    | '\x7d' :: rest, _ => .ok ([], rest)
    | ',' :: rest, false =>
      match skipBlanks rest with
      | [] => failAt .endInValue []
      | '"' :: after => scanMember fuel depth after
      | '\x7d' :: after => failOn .trailingComma ('\x7d' :: after)
      | other => failOn .keyNotString other
    | other, false => failOn .expectedObjectEnd other
    | '"' :: rest, true => scanMember fuel depth rest
    | other, true => failOn .keyNotString other

def scanMember (fuel depth : Nat) (chars : List Char) :
    Except Failure (List (String × Json) × List Char) :=
  match fuel with
  | 0 => failAt .endInObject []
  | fuel + 1 => do
    let (key, after) ← scanString chars
    match skipBlanks after with
    | [] => failAt .endInObject []
    | ':' :: rest =>
      let (value, after) ← scanValue fuel depth rest
      let (members, after) ← scanMembers fuel depth false after
      return ((key, value) :: members, after)
    | other => failOn .expectedColon other

end

def depthLimit : Nat := 128

def valueOf (depth : Nat) (chars : List Char) : Except Failure (Json × List Char) :=
  scanValue (4 * chars.length + 4) depth chars

def read (text : String) : Except ReadError Json := readWhole isBlank (valueOf depthLimit) text

/-- What encloses the value that is passed over. -/
inductive Enclosure where
  | list
  | object
  deriving DecidableEq, Repr

namespace Enclosure

def isEnd : Enclosure → Char → Bool
  | .list, c => c = ']'
  | .object, c => c = '\x7d'

def unclosed : Enclosure → Fault
  | .list => .endInList
  | .object => .endInObject

def expectedEnd : Enclosure → Fault
  | .list => .expectedListEnd
  | .object => .expectedObjectEnd

end Enclosure

mutual

/-- Past one value and the ends of what encloses it; `fuel` bounds the steps. -/
def skipValue (fuel : Nat) (within : List Enclosure) (chars : List Char) :
    Except Failure (List Char) :=
  match fuel with
  | 0 => failAt .endInValue []
  | fuel + 1 =>
    match skipBlanks chars with
    | [] => failAt .endInValue []
    | 'n' :: rest => do skipRest fuel within (← scanNull rest).2
    | 't' :: rest => do skipRest fuel within (← scanTrue rest).2
    | 'f' :: rest => do skipRest fuel within (← scanFalse rest).2
    | '-' :: rest => do skipRest fuel within (← skipNumber rest)
    | '"' :: rest => do skipRest fuel within (← skipString rest)
    | '[' :: rest => skipFirst fuel .list within rest
    | '\x7b' :: rest => skipFirst fuel .object within rest
    | c :: rest =>
      if isDigit c then do skipRest fuel within (← skipNumber (c :: rest))
      else failOn .expectedValue (c :: rest)

def skipFirst (fuel : Nat) (inner : Enclosure) (within : List Enclosure) (chars : List Char) :
    Except Failure (List Char) :=
  match fuel with
  | 0 => failAt inner.unclosed []
  | fuel + 1 =>
    match skipBlanks chars with
    | [] => failAt inner.unclosed []
    | c :: rest =>
      if inner.isEnd c then skipRest fuel within rest else skipEntry fuel inner within (c :: rest)

def skipEntry (fuel : Nat) (inner : Enclosure) (within : List Enclosure) (chars : List Char) :
    Except Failure (List Char) :=
  match fuel with
  | 0 => failAt inner.unclosed []
  | fuel + 1 =>
    match inner with
    | .list => skipValue fuel (inner :: within) chars
    | .object =>
      match skipBlanks chars with
      | [] => failAt .endInObject []
      | '"' :: rest => do
        match skipBlanks (← skipString rest) with
        | [] => failAt .endInObject []
        | ':' :: rest => skipValue fuel (inner :: within) rest
        | other => failOn .expectedColon other
      | other => failOn .keyNotString other

def skipRest (fuel : Nat) (within : List Enclosure) (chars : List Char) :
    Except Failure (List Char) :=
  match fuel with
  | 0 => failAt .endInValue []
  | fuel + 1 =>
    match within with
    | [] => .ok chars
    | inner :: outer =>
      match skipBlanks chars with
      | [] => failAt inner.unclosed []
      | ',' :: rest => skipEntry fuel inner outer rest
      | c :: rest =>
        if inner.isEnd c then skipRest fuel outer rest else failOn inner.expectedEnd (c :: rest)

end

def pastValue (chars : List Char) : Except Failure (List Char) :=
  skipValue (4 * chars.length + 4) [] chars

end AgentOperator.Json
