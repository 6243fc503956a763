import AgentOperator.Json.Printer
import AgentOperator.Text.Encoding

/-! Why a JSON value is not of the type that was asked for, and how that is said. -/
namespace AgentOperator

inductive DecodeError where
  | wrongType (found : Json) (expected : String)
  | outOfRange (found : Json) (expected : String)
  | missing (member : String)
  | repeated (member : String)
  | unknownVariant (found : String) (known : List String)
  | wrongLength (length : Nat) (expected : String)
  | unreadable (text : String)
  deriving DecidableEq

namespace DecodeError

def describe : Json → String
  | .null => "null"
  | .bool value => s!"boolean `{value}`"
  | .int value => s!"integer `{value}`"
  | .float bits => s!"floating point `{Json.floatText bits}`"
  | .str value => s!"string {Text.quoted value}"
  | .arr _ => "sequence"
  | .obj _ => "map"

def options (known : List String) : String :=
  match known.map fun name => s!"`{name}`" with
  | [] => "there are no variants"
  | [only] => "expected " ++ only
  | [first, second] => "expected " ++ first ++ " or " ++ second
  | names => "expected one of " ++ ", ".intercalate names

def message : DecodeError → String
  | .wrongType found expected => s!"invalid type: {describe found}, expected {expected}"
  | .outOfRange found expected => s!"invalid value: {describe found}, expected {expected}"
  | .missing name => s!"missing field `{name}`"
  | .repeated name => s!"duplicate field `{name}`"
  | .unknownVariant found known => s!"unknown variant `{found}`, {options known}"
  | .wrongLength length expected => s!"invalid length {length}, expected {expected}"
  | .unreadable text => text

end DecodeError

abbrev Decoded (α : Type u) := Except DecodeError α

end AgentOperator
