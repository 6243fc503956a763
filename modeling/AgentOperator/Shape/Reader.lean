import AgentOperator.Json.Reader
import AgentOperator.Shape

/-!
JSON text to values of a given type. The text is read once, from left to right, and the first fault
counts, be it in the form of the text or in the type of a value. A value of a wrong type is read to
its end before it is refused, a list or object is not read at all. A fault of a whole record, such
as a missing member, is found where the record ends, or would end if it ended with the fault.
-/
namespace AgentOperator.Shape
open Json

inductive Layout where
  | uniform (value : Shape)
  | named (form : Form) (members : List (String × Occurrence × Shape))

namespace Layout

def member? (layout : Layout) (key : String) : Option (Occurrence × Shape) :=
  match layout with
  | .uniform value => some (.given, value)
  | .named _ members => List.lookup key members

def isUnique (layout : Layout) (key : String) : Bool :=
  match layout with
  | .uniform _ | .named .plain _ => false
  | .named _ members => (List.lookup key members).isSome

def keepsOther (layout : Layout) : Bool :=
  match layout with
  | .named .extensible _ => true
  | _ => false

def missing? (layout : Layout) (keys : List String) : Option String :=
  match layout with
  | .uniform _ => none
  | .named _ members => Shape.missing? members keys

/-- The object of the entries that were read. One that is extensible keeps their order. -/
def object (layout : Layout) (entries : List (String × Json)) : Json :=
  if layout.keepsOther then .obj entries else Json.object entries

end Layout

/-- The text after an object that is left because of a fault. -/
def closeObject (chars : List Char) : List Char :=
  match skipBlanks chars with
  | '\x7d' :: rest => rest
  | other => other

def closeList (chars : List Char) : List Char :=
  match skipBlanks chars with
  | ']' :: rest => rest
  | ',' :: rest => skipBlanks rest
  | other => other

def endList (chars : List Char) : Except Failure (List Char) :=
  match skipBlanks chars with
  | [] => failAt .endInList []
  | ']' :: rest => .ok rest
  | ',' :: rest =>
    match skipBlanks rest with
    | ']' :: after => failOn .trailingComma (']' :: after)
    | other => failOn .trailingCharacters other
  | other => failOn .trailingCharacters other

/-- A value that is no list or object, or of which a list or object was not expected. -/
def readPlain (depth : Nat) (shape : Shape) (chars : List Char) :
    Except Failure (Json × List Char) :=
  let refuse (found : Json) : Except Failure (Json × List Char) :=
    match shape.check found with
    | .error error => failMismatch error chars
    | .ok () => failOn .expectedValue chars
  match chars with
  | '[' :: _ => refuse (.arr [])
  | '\x7b' :: _ => refuse (.obj [])
  | _ => do
    let (value, after) ← valueOf depth chars
    match shape.check value with
    | .error error => failMismatch error after
    | .ok () => return (value, after)

/-- A name out of several as a text, or as the only key of an object with null. -/
def readChoice (depth : Nat) (names : List String) (chars : List Char) :
    Except Failure (Json × List Char) := do
  let name (chars : List Char) : Except Failure (Json × List Char) := do
    let (name, after) ← scanString chars
    match checkChoice names name with
    | .error error => failMismatch error after
    | .ok () => return (.str name, after)
  match chars with
  | [] => failAt .endInValue []
  | '"' :: rest => name rest
  | '\x7b' :: rest =>
    if depth ≤ 1 then failAt .tooDeep rest
    else
      match skipBlanks rest with
      | '"' :: rest =>
        let (chosen, after) ← name rest
        match skipBlanks after with
        | [] => failAt .endInObject []
        | ':' :: rest =>
          match skipBlanks rest with
          | 'n' :: rest =>
            match skipBlanks (← scanNull rest).2 with
            | [] => failAt .endInObject []
            | '\x7d' :: after => return (chosen, after)
            | other => failAt .expectedValue other
          | '[' :: rest => failMismatch (.wrongType (.arr []) "unit") ('[' :: rest)
          | '\x7b' :: rest => failMismatch (.wrongType (.obj []) "unit") ('\x7b' :: rest)
          | other =>
            let (found, after) ← valueOf depth other
            failMismatch (.wrongType found "unit") after
        | other => failOn .expectedColon other
      | [] => failAt .endInValue []
      | other => failOn .expectedValue other
  | other => failOn .expectedValue other

mutual

/-- One value; `fuel` bounds the steps and `depth` the nesting that is left. -/
def scan (fuel depth : Nat) (shape : Shape) (chars : List Char) :
    Except Failure (Json × List Char) :=
  match fuel with
  | 0 => failAt .endInValue []
  | fuel + 1 =>
    match shape, skipBlanks chars with
    | .any, chars => valueOf depth chars
    | .choice names, chars => readChoice depth names chars
    | .sequence item, '[' :: rest =>
      if depth ≤ 1 then failAt .tooDeep rest
      else do
        let (items, after) ← scanItems fuel (depth - 1) item true rest
        return (.arr items, after)
    | .mapping value, '\x7b' :: rest => scanObject fuel depth (.uniform value) rest
    | .record _ form members, '\x7b' :: rest => scanObject fuel depth (.named form members) rest
    | .record title .plain _, '[' :: rest =>
      if depth ≤ 1 then failAt .tooDeep rest
      else failMismatch (.wrongType (.arr []) title) (closeList rest)
    | .record _ .strict members, '[' :: rest =>
      if depth ≤ 1 then failAt .tooDeep rest
      else do
        let (entries, after) ← scanPlaced fuel (depth - 1) members true rest
        match Shape.missing? members (entries.map (·.1)) with
        | some name => failMismatch (.missing name) (closeList after)
        | none => return (Json.object entries, ← endList after)
    | shape, chars => readPlain depth shape chars

def scanItems (fuel depth : Nat) (shape : Shape) (first : Bool) (chars : List Char) :
    Except Failure (List Json × List Char) :=
  match fuel with
  | 0 => failAt .endInList []
  | fuel + 1 =>
    match skipBlanks chars, first with
    | [], _ => failAt .endInList []
    | ']' :: rest, _ => .ok ([], rest)
    | ',' :: rest, false =>
      match skipBlanks rest with
      | [] => failAt .endInValue []
      | ']' :: after => failOn .trailingComma (']' :: after)
      | _ => scanItem fuel depth shape rest
    | other, false => failOn .expectedListEnd other
    | _, true => scanItem fuel depth shape chars

def scanItem (fuel depth : Nat) (shape : Shape) (chars : List Char) :
    Except Failure (List Json × List Char) :=
  match fuel with
  | 0 => failAt .endInList []
  | fuel + 1 => do
    let (item, after) ← scan fuel depth shape chars
    let (items, after) ← scanItems fuel depth shape false after
    return (item :: items, after)

/-- The members of a record that is written as a list, up to where the list ends or is full. -/
def scanPlaced (fuel depth : Nat) (members : List (String × Occurrence × Shape)) (first : Bool)
    (chars : List Char) : Except Failure (List (String × Json) × List Char) :=
  match fuel, members with
  | 0, _ => failAt .endInList []
  | _, [] => .ok ([], chars)
  | fuel + 1, (name, occurrence, shape) :: members =>
    let item (chars : List Char) : Except Failure (List (String × Json) × List Char) := do
      let (value, after) ← scanPresent fuel depth occurrence shape chars
      let (entries, after) ← scanPlaced fuel depth members false after
      return ((name, value) :: entries, after)
    match skipBlanks chars, first with
    | [], _ => failAt .endInList []
    | ']' :: rest, _ => .ok ([], ']' :: rest)
    | ',' :: rest, false =>
      match skipBlanks rest with
      | [] => failAt .endInValue []
      | ']' :: after => failOn .trailingComma (']' :: after)
      | rest => item rest
    | other, false => failOn .expectedListEnd other
    | rest, true => item rest

def scanPresent (fuel depth : Nat) (occurrence : Occurrence) (shape : Shape) (chars : List Char) :
    Except Failure (Json × List Char) :=
  match fuel with
  | 0 => failAt .endInValue []
  | fuel + 1 =>
    match occurrence.nullable, skipBlanks chars with
    | true, 'n' :: rest => scanNull rest
    | _, chars => scan fuel depth shape chars

def scanObject (fuel depth : Nat) (layout : Layout) (chars : List Char) :
    Except Failure (Json × List Char) :=
  match fuel with
  | 0 => failAt .endInObject []
  | fuel + 1 =>
    if depth ≤ 1 then failAt .tooDeep chars
    else do
      let (entries, after) ← scanEntries fuel (depth - 1) layout [] true chars
      return (layout.object entries, after)

def scanEntries (fuel depth : Nat) (layout : Layout) (seen : List String) (first : Bool)
    (chars : List Char) : Except Failure (List (String × Json) × List Char) :=
  match fuel with
  | 0 => failAt .endInObject []
  | fuel + 1 =>
    match skipBlanks chars, first with
    | [], _ => failAt .endInObject []
    | '\x7d' :: rest, _ =>
      match layout.missing? seen with
      | some name => failMismatch (.missing name) rest
      | none => .ok ([], rest)
    | ',' :: rest, false =>
      match skipBlanks rest with
      | [] => failAt .endInValue []
      | '"' :: after => scanEntry fuel depth layout seen after
      | '\x7d' :: after => failOn .trailingComma ('\x7d' :: after)
      | other => failOn .keyNotString other
    | other, false => failOn .expectedObjectEnd other
    | '"' :: rest, true => scanEntry fuel depth layout seen rest
    | other, true => failOn .keyNotString other

def scanEntry (fuel depth : Nat) (layout : Layout) (seen : List String) (chars : List Char) :
    Except Failure (List (String × Json) × List Char) :=
  match fuel with
  | 0 => failAt .endInObject []
  | fuel + 1 => do
    let (key, after) ← scanString chars
    if layout.isUnique key && seen.contains key then
      failMismatch (.repeated key) (closeObject after)
    else
      match skipBlanks after with
      | [] => failAt .endInObject []
      | ':' :: rest =>
        let (kept, after) ← match layout.member? key with
          | some (_, .literal wanted) => do
            let (value, after) ← scan fuel depth .text rest
            match (Shape.literal wanted).check value with
            | .error error => failMismatch error (closeObject after)
            | .ok () => pure ([(key, value)], after)
          | some (occurrence, shape) => do
            let (value, after) ← scanPresent fuel depth occurrence shape rest
            pure ([(key, value)], after)
          | none =>
            if layout.keepsOther then do
              let (value, after) ← valueOf depth rest
              pure ([(key, value)], after)
            else do pure ([], ← pastValue rest)
        let (entries, after) ← scanEntries fuel depth layout (key :: seen) false after
        return (kept ++ entries, after)
      | other => failOn .expectedColon other

end

def read (shape : Shape) (text : String) : Except ReadError Json :=
  readWhole isBlank (fun chars => scan (4 * chars.length + 4) depthLimit shape chars) text

end AgentOperator.Shape
