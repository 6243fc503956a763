import AgentOperator.Json

/-! Schemas of JSON values, and the form in which an API server takes them. -/
namespace AgentOperator

inductive Presence where
  | required
  /-- Null counts as absent too. -/
  | nullable
  | fallback (value : Json)

inductive Schema where
  | text
  | flag
  | integer (bits : Nat)
  | oneOf (names : List String)
  | textMap
  | list (item : Schema)
  | record (members : List (String × Presence × Schema))
  | described (description : String) (schema : Schema)

namespace Schema

def required (members : List (String × Presence × Schema)) : List String :=
  (members.filterMap fun (name, presence, _) =>
    match presence with
    | .required => some name
    | _ => none).mergeSort (· ≤ ·)

def presenceField : Presence → List (String × Json)
  | .required => []
  | .nullable => [("nullable", .bool true)]
  | .fallback value => [("default", value)]

def typed (type : String) : String × Json := ("type", .str type)

mutual

def encode : Schema → List (String × Json)
  | .text => [typed "string"]
  | .flag => [typed "boolean"]
  | .integer bits => [typed "integer", ("format", .str s!"int{bits}")]
  | .oneOf names => [typed "string", ("enum", .strs names)]
  | .textMap => [typed "object", ("additionalProperties", .object [typed "string"])]
  | .list item => [typed "array", ("items", .object item.encode)]
  | .record members =>
    let required := required members
    [typed "object", ("properties", .object (encodeMembers members))] ++
      if required.isEmpty then [] else [("required", .strs required)]
  | .described description schema => ("description", .str description) :: schema.encode

def encodeMembers : List (String × Presence × Schema) → List (String × Json)
  | [] => []
  | (name, presence, schema) :: rest =>
    (name, .object (schema.encode ++ presenceField presence)) :: encodeMembers rest

end

end Schema
end AgentOperator
