import AgentOperator.Decoding.Error
import AgentOperator.Text.Encoding
import AgentOperator.Timestamp.Relaxed

/-!
Types of JSON values, as data. `check` says whether a value is of a type; of several faults the
first in key order counts. Members that a record does not know are passed over.
-/
namespace AgentOperator

/-- Whether a member has to be there, and whether it may be null. -/
structure Occurrence where
  required : Bool
  nullable : Bool
  deriving DecidableEq, Repr

namespace Occurrence

/-- Null is as good as absent. -/
def free : Occurrence := ⟨false, true⟩

/-- May be absent, but is not null. -/
def given : Occurrence := ⟨false, false⟩

def needed : Occurrence := ⟨true, false⟩

end Occurrence

inductive Form where
  /-- As an object, where of equal members the last counts. -/
  | plain
  /-- As an object without repeated members, or as a list of the members in their order. -/
  | strict
  /-- As an object in which no known member is repeated; unknown ones are kept. -/
  | extensible
  deriving DecidableEq, Repr

inductive Shape where
  | any
  | text
  | flag
  /-- The integers from `low` to `high`, and what they are called. -/
  | integer (low high : Int) (title : String)
  | intOrText
  /-- An amount, written as text or as a number. -/
  | quantity
  | instant
  /-- Octets in base 64; null stands for none. -/
  | octets
  /-- One text only. -/
  | literal (value : String)
  /-- One of some names, or an object with the name as its only member, which is null. -/
  | choice (names : List String)
  | sequence (item : Shape)
  | mapping (value : Shape)
  | record (title : String) (form : Form) (members : List (String × Occurrence × Shape))

namespace Shape

def int32 : Shape := .integer (-2147483648) 2147483647 "i32"

def int64 : Shape := .integer (-9223372036854775808) 9223372036854775807 "i64"

def word16 : Shape := .integer 0 65535 "u16"

def word32 : Shape := .integer 0 4294967295 "u32"

def texts : Shape := .sequence .text

def textMap : Shape := .mapping .text

def api (title : String) (members : List (String × Shape)) : Shape :=
  .record title .plain (members.map fun (name, shape) => (name, .free, shape))

/-- An API object that declares its type, if at all, as it has to be. -/
def declared (title apiVersion : String) (members : List (String × Shape)) : Shape :=
  .record title .plain ([
    ("apiVersion", .given, .literal apiVersion), ("kind", .given, .literal title)] ++
    members.map fun (name, shape) => (name, .free, shape))

end Shape

def Form.expected (form : Form) (title : String) : String :=
  match form with
  | .plain => title
  | .strict | .extensible => "struct " ++ title

namespace Shape

def wrong (found : Json) (expected : String) : Decoded Unit := .error (.wrongType found expected)

def checkInteger (low high : Int) (title : String) (value : Int) : Decoded Unit :=
  if low ≤ value ∧ value ≤ high then .ok () else .error (.outOfRange (.int value) title)

def checkChoice (names : List String) (name : String) : Decoded Unit :=
  if name ∈ names then .ok () else .error (.unknownVariant name names)

def checkInstant (written : String) : Decoded Unit :=
  match Timestamp.readRelaxed written with
  | .ok _ => .ok ()
  | .error reason => .error (.unreadable reason.message)

def checkOctets (written : String) : Decoded Unit :=
  if (Text.Base64.decode? written.toList).isSome then .ok ()
  else .error (.unreadable "invalid base64")

def missing? (members : List (String × Occurrence × Shape)) (names : List String) : Option String :=
  (members.find? fun member => member.2.1.required && !names.contains member.1).map (·.1)

def checkComplete (members : List (String × Occurrence × Shape)) (names : List String) :
    Decoded Unit :=
  match missing? members names with
  | some name => .error (.missing name)
  | none => .ok ()

mutual

def check (shape : Shape) (json : Json) : Decoded Unit :=
  match shape, json with
  | .any, _ => .ok ()
  | .text, .str _ => .ok ()
  | .text, other => wrong other "a string"
  | .flag, .bool _ => .ok ()
  | .flag, other => wrong other "a boolean"
  | .integer low high title, .int value => checkInteger low high title value
  | .integer _ _ title, other => wrong other title
  | .intOrText, .str _ => .ok ()
  | .intOrText, .int value => checkInteger (-2147483648) 2147483647 "a 32-bit integer" value
  | .intOrText, other => wrong other "IntOrString"
  | .quantity, .str _ => .ok ()
  | .quantity, .int _ => .ok ()
  | .quantity, .float _ => .ok ()
  | .quantity, other => wrong other "Quantity"
  | .instant, .str written => checkInstant written
  | .instant, other => wrong other "an RFC 3339 formatted date and time string"
  | .octets, .null => .ok ()
  | .octets, .str written => checkOctets written
  | .octets, other => wrong other "a base64-encoded string"
  | .literal wanted, .str found =>
    if found = wanted then .ok () else .error (.outOfRange (.str found) wanted)
  | .literal _, other => wrong other "a string"
  | .choice names, .str name => checkChoice names name
  | .choice names, .obj [(name, .null)] => checkChoice names name
  | .choice _, other => wrong other "string or map"
  | .sequence item, .arr items => checkItems item items
  | .sequence _, other => wrong other "a sequence"
  | .mapping value, .obj fields => checkValues value fields
  | .mapping _, other => wrong other "a map"
  | .record _ _ members, .obj fields => do
    checkMembers members fields
    checkComplete members (fields.map (·.1))
  | .record _ .strict members, .arr items => do
    checkPlaced members items
    checkComplete members ((members.take items.length).map (·.1))
  | .record title form _, other => wrong other (form.expected title)

def checkItems (shape : Shape) : List Json → Decoded Unit
  | [] => .ok ()
  | item :: rest => do
    check shape item
    checkItems shape rest

def checkValues (shape : Shape) : List (String × Json) → Decoded Unit
  | [] => .ok ()
  | (_, value) :: rest => do
    check shape value
    checkValues shape rest

def checkMembers (members : List (String × Occurrence × Shape)) :
    List (String × Json) → Decoded Unit
  | [] => .ok ()
  | (name, value) :: rest => do
    match List.lookup name members with
    | some (occurrence, shape) =>
      if occurrence.nullable && value = .null then pure () else check shape value
    | none => pure ()
    checkMembers members rest

def checkPlaced (members : List (String × Occurrence × Shape)) : List Json → Decoded Unit
  | [] => .ok ()
  | value :: rest =>
    match members with
    | [] => .error (.wrongLength (rest.length + 1) "fewer elements in array")
    | (_, occurrence, shape) :: members => do
      if occurrence.nullable && value = .null then pure () else check shape value
      checkPlaced members rest

end

end Shape
end AgentOperator
