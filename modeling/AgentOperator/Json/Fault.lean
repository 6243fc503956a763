import AgentOperator.Decoding.Error

/-!
What can be wrong with a JSON text, and where. A place is a count of lines and of bytes in the last
line: those that were read before the fault was seen, and the byte that shows it where one does.
-/
namespace AgentOperator.Json

inductive Fault where
  | endInValue
  | endInList
  | endInObject
  | endInString
  | expectedColon
  | expectedListEnd
  | expectedObjectEnd
  | expectedWord
  | expectedValue
  | invalidEscape
  | invalidNumber
  | outOfRange
  | controlCharacter
  | keyNotString
  | loneSurrogate
  | trailingComma
  | trailingCharacters
  | shortHexEscape
  | tooDeep
  /-- A value that is not of the type that is read. -/
  | mismatch (error : DecodeError)
  deriving DecidableEq

def Fault.message : Fault → String
  | .endInValue => "EOF while parsing a value"
  | .endInList => "EOF while parsing a list"
  | .endInObject => "EOF while parsing an object"
  | .endInString => "EOF while parsing a string"
  | .expectedColon => "expected `:`"
  | .expectedListEnd => "expected `,` or `]`"
  | .expectedObjectEnd => "expected `,` or `\x7d`"
  | .expectedWord => "expected ident"
  | .expectedValue => "expected value"
  | .invalidEscape => "invalid escape"
  | .invalidNumber => "invalid number"
  | .outOfRange => "number out of range"
  | .controlCharacter => "control character (\\u0000-\\u001F) found while parsing a string"
  | .keyNotString => "key must be a string"
  | .loneSurrogate => "lone leading surrogate in hex escape"
  | .trailingComma => "trailing comma"
  | .trailingCharacters => "trailing characters"
  | .shortHexEscape => "unexpected end of hex escape"
  | .tooDeep => "recursion limit exceeded"
  | .mismatch error => error.message

/-- What is wrong, the text that was not read, and how many bytes of that have been looked at. -/
structure Failure where
  fault : Fault
  rest : List Char
  ahead : Nat
  deriving DecidableEq

def failAt (fault : Fault) (rest : List Char) : Except Failure α := .error ⟨fault, rest, 0⟩

/-- A failure at the next byte, which counts as read. -/
def failOn (fault : Fault) (rest : List Char) : Except Failure α := .error ⟨fault, rest, 1⟩

def failMismatch (error : DecodeError) (rest : List Char) : Except Failure α :=
  failAt (.mismatch error) rest

def byteSize (chars : List Char) : Nat := chars.foldl (fun bytes c => bytes + c.utf8Size) 0

structure Position where
  line : Nat := 1
  column : Nat := 0
  deriving DecidableEq, Repr

/-- The position that many bytes further on; the end of the text is not passed. -/
def Position.after (p : Position) (bytes : Nat) : List Char → Position
  | [] => p
  | c :: rest =>
    if bytes = 0 then p
    else if bytes < c.utf8Size then { p with column := p.column + bytes }
    else
      let next := if c = '\n' then ⟨p.line + 1, 0⟩ else { p with column := p.column + c.utf8Size }
      next.after (bytes - c.utf8Size) rest

structure ReadError where
  fault : Fault
  position : Position
  deriving DecidableEq

def ReadError.message (error : ReadError) : String :=
  s!"{error.fault.message} at line {error.position.line} column {error.position.column}"

def Failure.locate (failure : Failure) (text : List Char) : ReadError :=
  let read := byteSize text - byteSize failure.rest
  ⟨failure.fault, Position.after {} (read + failure.ahead) text⟩

def readWhole (isBlank : Char → Bool) (read : List Char → Except Failure (α × List Char))
    (text : String) : Except ReadError α :=
  let chars := text.toList
  match read chars with
  | .error failure => .error (failure.locate chars)
  | .ok (value, rest) =>
    match rest.dropWhile isBlank with
    | [] => .ok value
    | other => .error (Failure.locate ⟨.trailingCharacters, other, 1⟩ chars)

end AgentOperator.Json
