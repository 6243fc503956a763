import AgentOperator.Object.Metadata

/-! Objects of any kind: the declared type, the metadata, and the rest as JSON. -/
namespace AgentOperator

structure TypeMeta where
  apiVersion : String
  kind : String
  deriving DecidableEq, Repr

def TypeMeta.ofKind (kind : Kind) : TypeMeta := ⟨kind.apiVersion, kind.name⟩

structure Object where
  types : Option TypeMeta := none
  metadata : Metadata := {}
  /-- Every member but the type and the metadata. -/
  data : Fields Json := []
  deriving DecidableEq

namespace Object

/-- Takes the declared type out of the members. They are gone through in their order, up to a half
of the type that is no text or comes twice; what was gone through by then is dropped, and there is
no type unless both halves were found. -/
def takeTypes (apiVersion kind : Option String) :
    List (String × Json) → Option TypeMeta × List (String × Json)
  | [] => (apiVersion.bind fun apiVersion => kind.map (⟨apiVersion, ·⟩), [])
  | (name, value) :: rest =>
    match name, value with
    | "apiVersion", .str text =>
      if apiVersion.isSome then (none, rest) else takeTypes (some text) kind rest
    | "kind", .str text =>
      if kind.isSome then (none, rest) else takeTypes apiVersion (some text) rest
    | "apiVersion", _ | "kind", _ => (none, rest)
    | _, _ =>
      let (types, rest) := takeTypes apiVersion kind rest
      (types, (name, value) :: rest)

/-- The members may come in any order, as they do in a text. -/
def shape : Shape := .record "DynamicObject" .extensible [("metadata", .given, Metadata.shape)]

def ofJson (json : Json) : Object :=
  let members := json.obj?.getD []
  let (types, rest) := takeTypes none none (members.filter (·.1 ≠ "metadata"))
  { types
    metadata := ((json.get? "metadata").map Metadata.ofJson).getD {}
    data := Fields.ofList rest }

def decode (json : Json) : Decoded Object := do
  shape.check json
  return ofJson json

def encode (object : Object) : Json :=
  let fields := Fields.insert object.data "metadata" object.metadata.encode
  match object.types with
  | none => .obj fields
  | some types =>
    .obj ((fields.insert "apiVersion" (.str types.apiVersion)).insert "kind" (.str types.kind))

def key (object : Object) : Key := object.metadata.key

def status? (object : Object) : Option Json := object.data.get? "status"

def withStatus (object : Object) (status : Option Json) : Object :=
  match status with
  | some json => { object with data := object.data.insert "status" json }
  | none => { object with data := object.data.erase "status" }

@[simp] theorem status?_withStatus (object : Object) (status : Json) :
    (object.withStatus (some status)).status? = some status :=
  Fields.get?_insert_self object.data "status" status

def withMetadata (object : Object) (f : Metadata → Metadata) : Object :=
  { object with metadata := f object.metadata }

def ofKind (kind : Kind) (metadata : Metadata) (data : List (String × Json)) : Object :=
  { types := some (.ofKind kind), metadata, data := Fields.ofList data }

end Object

structure Resource where
  kind : Kind
  object : Object
  deriving DecidableEq

namespace Resource

def key (r : Resource) : Key := r.object.key

def ident (r : Resource) : Ident := ⟨r.kind.name, r.key⟩

def slot (r : Resource) : Slot := ⟨r.kind, r.key⟩

end Resource
end AgentOperator
