import AgentOperator.Condition
import AgentOperator.Object

/-!
The two kinds of instance that users write. An agent lives in a namespace and runs there; a scanner
belongs to the cluster and names the namespace it is installed into.
-/
namespace AgentOperator

structure AgentSpec where
  image : Option String := none
  port : Option Int := none
  config : Fields String := []
  nodeSelector : Option (Fields String) := none
  credentials : Bool := false
  deriving DecidableEq, Repr

structure ScannerSpec where
  ns : String
  image : Option String := none
  config : Fields String := []
  nodeSelector : Option (Fields String) := none
  deriving DecidableEq, Repr

namespace AgentSpec

def decodeCredentials (json : Json) : Decoded Bool := do
  let fields ← Decode.record "CredentialsSpec" ["enabled"] json
  return (← Decode.present fields "enabled" Decode.boolean).getD false

def decode (json : Json) : Decoded AgentSpec := do
  let fields ← Decode.record "NodeAgentSpec"
    ["image", "port", "config", "nodeSelector", "credentials"] json
  let config ← Decode.present fields "config" Decode.textMap
  let credentials ← Decode.present fields "credentials" decodeCredentials
  let image ← Decode.member fields "image" Decode.text
  let nodeSelector ← Decode.member fields "nodeSelector" Decode.textMap
  let port ← Decode.member fields "port" Decode.int32
  return {
    image, port, nodeSelector
    config := config.getD []
    credentials := credentials.getD false }

/-- Every field is written, absent ones as null. -/
def encode (spec : AgentSpec) : Json :=
  .object [
    ("image", .ofOption .str spec.image),
    ("port", .ofOption .int spec.port),
    ("config", .strMap spec.config),
    ("nodeSelector", .ofOption .strMap spec.nodeSelector),
    ("credentials", .object [("enabled", .bool spec.credentials)])]

end AgentSpec

namespace ScannerSpec

def decode (json : Json) : Decoded ScannerSpec := do
  let fields ← Decode.record "NodeScannerSpec" ["namespace", "image", "config", "nodeSelector"] json
  let config ← Decode.present fields "config" Decode.textMap
  let image ← Decode.member fields "image" Decode.text
  let ns ← Decode.present fields "namespace" Decode.text
  let nodeSelector ← Decode.member fields "nodeSelector" Decode.textMap
  let ns ← Decode.require "namespace" ns
  return { ns, image, nodeSelector, config := config.getD [] }

def encode (spec : ScannerSpec) : Json :=
  .object [
    ("namespace", .str spec.ns),
    ("image", .ofOption .str spec.image),
    ("config", .strMap spec.config),
    ("nodeSelector", .ofOption .strMap spec.nodeSelector)]

end ScannerSpec

inductive Spec where
  | agent (spec : AgentSpec)
  | scanner (spec : ScannerSpec)
  deriving DecidableEq, Repr

structure Instance where
  metadata : Metadata
  spec : Spec
  /-- The stored conditions, if a status was ever written. -/
  status : Option (List Condition) := none
  deriving DecidableEq

namespace Instance

def kind (i : Instance) : Kind :=
  match i.spec with
  | .agent _ => .nodeAgent
  | .scanner _ => .nodeScanner

def key (i : Instance) : Key := i.metadata.key

def ident (i : Instance) : Ident := ⟨i.kind.name, i.key⟩

def decodeStatus (json : Json) : Decoded (List Condition) := do
  let fields ← Decode.record "AgentStatus" ["conditions"] json
  return (← Decode.present fields "conditions" (Decode.sequence Condition.decode)).getD []

def decodeParts (name : String) (decodeSpec : Json → Decoded Spec) (json : Json) :
    Decoded Instance := do
  let fields ← Decode.record name ["metadata", "spec", "status"] json
  let metadata ← Decode.present fields "metadata" Metadata.decode
  let spec ← Decode.present fields "spec" decodeSpec
  let status ← Decode.member fields "status" decodeStatus
  let metadata ← Decode.require "metadata" metadata
  let spec ← Decode.require "spec" spec
  return { metadata, spec, status }

def decodeAgent : Json → Decoded Instance :=
  decodeParts "NodeAgent" fun json => (AgentSpec.decode json).map .agent

def decodeScanner : Json → Decoded Instance :=
  decodeParts "NodeScanner" fun json => (ScannerSpec.decode json).map .scanner

/-- The kind that the object names selects its type; the API version is not looked at. -/
def decode? (json : Json) : Option (Decoded Instance) :=
  match json.get? "kind" with
  | some (.str "NodeAgent") => some (decodeAgent json)
  | some (.str "NodeScanner") => some (decodeScanner json)
  | _ => none

def encodeSpec (i : Instance) : Json :=
  match i.spec with
  | .agent spec => spec.encode
  | .scanner spec => spec.encode

def encodeStatus (conditions : List Condition) : Json :=
  .object [("conditions", .arr (conditions.map Condition.encode))]

def encode (i : Instance) : Json :=
  .objectSome [
    ("apiVersion", some (.str i.kind.apiVersion)),
    ("kind", some (.str i.kind.name)),
    ("metadata", some i.metadata.encode),
    ("spec", some i.encodeSpec),
    ("status", i.status.map encodeStatus)]

def failureKey (i : Instance) : String := i.kind.name ++ "/" ++ i.key.render

end Instance

structure Owner where
  ident : Ident
  /-- None as long as the owner has no name or uid. -/
  reference : Option OwnerReference
  deriving DecidableEq

namespace Owner

def ofInstance (i : Instance) : Owner :=
  { ident := i.ident
    reference := do
      let name ← i.metadata.name
      let uid ← i.metadata.uid
      return {
        name, uid
        apiVersion := i.kind.apiVersion
        controller := some true
        kind := i.kind.name } }

/-- Whether an object in that namespace can be collected with this owner. -/
def sharesScope (owner : Owner) (ns : Option String) : Bool :=
  match owner.ident.key.ns with
  | none => true
  | some own => ns = some own

end Owner
end AgentOperator
