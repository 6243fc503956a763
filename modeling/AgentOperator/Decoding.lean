import AgentOperator.Decoding.Error

/-!
Typed values out of JSON. A record is read member by member in key order and the first member that
does not fit decides the error; members that a type does not know are passed over.
-/
namespace AgentOperator

namespace Decode

def text : Json → Decoded String
  | .str value => .ok value
  | other => .error (.wrongType other "a string")

def boolean : Json → Decoded Bool
  | .bool value => .ok value
  | other => .error (.wrongType other "a boolean")

/-- An integer from `-bound` up to but without `bound`. -/
def signed (bound : Int) (expected : String) : Json → Decoded Int
  | .int value =>
    if -bound ≤ value ∧ value < bound then .ok value
    else .error (.outOfRange (.int value) expected)
  | other => .error (.wrongType other expected)

def int32 : Json → Decoded Int := signed 2147483648 "i32"

def int64 : Json → Decoded Int := signed 9223372036854775808 "i64"

def word16 : Json → Decoded Nat
  | .int value =>
    if 0 ≤ value ∧ value < 65536 then .ok value.toNat
    else .error (.outOfRange (.int value) "u16")
  | other => .error (.wrongType other "u16")

def any (json : Json) : Decoded Json := .ok json

/-- Null reads as no value. -/
def optional (decode : Json → Decoded α) : Json → Decoded (Option α)
  | .null => .ok none
  | other => (decode other).map some

def sequence (decode : Json → Decoded α) : Json → Decoded (List α)
  | .arr items => items.mapM decode
  | other => .error (.wrongType other "a sequence")

def mapping (decode : Json → Decoded α) : Json → Decoded (Fields α)
  | .obj fields => fields.mapM fun field => do return (field.1, ← decode field.2)
  | other => .error (.wrongType other "a map")

def textMap : Json → Decoded (Fields String) := mapping text

def members (expected : String) : Json → Decoded (Fields Json)
  | .obj fields => .ok fields
  | other => .error (.wrongType other expected)

/-- The members of a record, which may also be written as a list in the order of its names. -/
def record (expected : String) (names : List String) : Json → Decoded (Fields Json)
  | .obj fields => .ok fields
  | .arr items =>
    if items.length ≤ names.length then .ok (Fields.ofList (names.zip items))
    else .error (.wrongLength items.length "fewer elements in array")
  | other => .error (.wrongType other s!"struct {expected}")

/-- The member `name` if it is there, null or not. -/
def present (fields : Fields Json) (name : String) (decode : Json → Decoded α) :
    Decoded (Option α) :=
  match fields.get? name with
  | none => .ok none
  | some json => (decode json).map some

/-- The member `name`, where null counts as absent. -/
def member (fields : Fields Json) (name : String) (decode : Json → Decoded α) :
    Decoded (Option α) :=
  match fields.get? name with
  | none => .ok none
  | some json => optional decode json

def require (name : String) : Option α → Decoded α
  | some value => .ok value
  | none => .error (.missing name)

end Decode
end AgentOperator
