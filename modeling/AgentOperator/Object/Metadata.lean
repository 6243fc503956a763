import AgentOperator.Object.Key
import AgentOperator.Shape

/-! Object metadata: its fields, its JSON form, and the questions asked of it. -/
namespace AgentOperator

structure OwnerReference where
  apiVersion : String
  blockOwnerDeletion : Option Bool := none
  controller : Option Bool := none
  kind : String
  name : String
  uid : String
  deriving DecidableEq, Repr

namespace OwnerReference

def shape : Shape :=
  .api "OwnerReference" [
    ("apiVersion", .text), ("blockOwnerDeletion", .flag), ("controller", .flag), ("kind", .text),
    ("name", .text), ("uid", .text)]

/-- Reads a value of the shape; absent texts are empty. -/
def ofJson (json : Json) : OwnerReference :=
  let text (name : String) := (json.member? name Json.str?).getD ""
  { apiVersion := text "apiVersion"
    blockOwnerDeletion := json.member? "blockOwnerDeletion" Json.bool?
    controller := json.member? "controller" Json.bool?
    kind := text "kind"
    name := text "name"
    uid := text "uid" }

def decode (json : Json) : Decoded OwnerReference := do
  shape.check json
  return ofJson json

def encode (reference : OwnerReference) : Json :=
  .objectSome [
    ("apiVersion", some (.str reference.apiVersion)),
    ("blockOwnerDeletion", reference.blockOwnerDeletion.map .bool),
    ("controller", reference.controller.map .bool),
    ("kind", some (.str reference.kind)),
    ("name", some (.str reference.name)),
    ("uid", some (.str reference.uid))]

end OwnerReference

def decodeTime? (json : Json) : Option Timestamp :=
  json.str?.bind fun text => (Timestamp.readRelaxed text).toOption

def encodeTime (time : Timestamp) : Json := .str time.renderSeconds

structure FieldOwnership where
  apiVersion : Option String
  fieldsType : Option String
  fields : Option Json
  manager : Option String
  operation : Option String
  subresource : Option String
  time : Option Timestamp
  deriving DecidableEq

namespace FieldOwnership

def shape : Shape :=
  .api "ManagedFieldsEntry" [
    ("apiVersion", .text), ("fieldsType", .text), ("fieldsV1", .any), ("manager", .text),
    ("operation", .text), ("subresource", .text), ("time", .instant)]

/-- Reads a value of the shape. Fields that are null count as absent. -/
def ofJson (json : Json) : FieldOwnership :=
  { apiVersion := json.member? "apiVersion" Json.str?
    fieldsType := json.member? "fieldsType" Json.str?
    fields := (json.get? "fieldsV1").filter (· ≠ .null)
    manager := json.member? "manager" Json.str?
    operation := json.member? "operation" Json.str?
    subresource := json.member? "subresource" Json.str?
    time := json.member? "time" decodeTime? }

def encode (ownership : FieldOwnership) : Json :=
  .objectSome [
    ("apiVersion", ownership.apiVersion.map .str),
    ("fieldsType", ownership.fieldsType.map .str),
    ("fieldsV1", ownership.fields),
    ("manager", ownership.manager.map .str),
    ("operation", ownership.operation.map .str),
    ("subresource", ownership.subresource.map .str),
    ("time", ownership.time.map encodeTime)]

end FieldOwnership

structure Metadata where
  annotations : Option (Fields String) := none
  creationTimestamp : Option Timestamp := none
  deletionGracePeriodSeconds : Option Int := none
  deletionTimestamp : Option Timestamp := none
  finalizers : Option (List String) := none
  generateName : Option String := none
  generation : Option Int := none
  labels : Option (Fields String) := none
  managedFields : Option (List FieldOwnership) := none
  name : Option String := none
  ns : Option String := none
  ownerReferences : Option (List OwnerReference) := none
  resourceVersion : Option String := none
  selfLink : Option String := none
  uid : Option String := none
  deriving DecidableEq

namespace Metadata

def shape : Shape :=
  .api "ObjectMeta" [
    ("annotations", .textMap), ("creationTimestamp", .instant),
    ("deletionGracePeriodSeconds", .int64), ("deletionTimestamp", .instant),
    ("finalizers", .texts), ("generateName", .text), ("generation", .int64),
    ("labels", .textMap), ("managedFields", .sequence FieldOwnership.shape), ("name", .text),
    ("namespace", .text), ("ownerReferences", .sequence OwnerReference.shape),
    ("resourceVersion", .text), ("selfLink", .text), ("uid", .text)]

/-- Reads a value of the shape. -/
def ofJson (json : Json) : Metadata :=
  { annotations := json.member? "annotations" Json.textMap?
    creationTimestamp := json.member? "creationTimestamp" decodeTime?
    deletionGracePeriodSeconds := json.member? "deletionGracePeriodSeconds" Json.int?
    deletionTimestamp := json.member? "deletionTimestamp" decodeTime?
    finalizers := json.member? "finalizers" Json.texts?
    generateName := json.member? "generateName" Json.str?
    generation := json.member? "generation" Json.int?
    labels := json.member? "labels" Json.textMap?
    managedFields :=
      (json.member? "managedFields" Json.arr?).map (·.map FieldOwnership.ofJson)
    name := json.member? "name" Json.str?
    ns := json.member? "namespace" Json.str?
    ownerReferences :=
      (json.member? "ownerReferences" Json.arr?).map (·.map OwnerReference.ofJson)
    resourceVersion := json.member? "resourceVersion" Json.str?
    selfLink := json.member? "selfLink" Json.str?
    uid := json.member? "uid" Json.str? }

def decode (json : Json) : Decoded Metadata := do
  shape.check json
  return ofJson json

/-- Absent fields are left out; an empty list or map is kept. -/
def encode (m : Metadata) : Json :=
  .objectSome [
    ("annotations", m.annotations.map .strMap),
    ("creationTimestamp", m.creationTimestamp.map encodeTime),
    ("deletionGracePeriodSeconds", m.deletionGracePeriodSeconds.map .int),
    ("deletionTimestamp", m.deletionTimestamp.map encodeTime),
    ("finalizers", m.finalizers.map .strs),
    ("generateName", m.generateName.map .str),
    ("generation", m.generation.map .int),
    ("labels", m.labels.map .strMap),
    ("managedFields", m.managedFields.map fun entries => .arr (entries.map FieldOwnership.encode)),
    ("name", m.name.map .str),
    ("namespace", m.ns.map .str),
    ("ownerReferences", m.ownerReferences.map fun refs => .arr (refs.map OwnerReference.encode)),
    ("resourceVersion", m.resourceVersion.map .str),
    ("selfLink", m.selfLink.map .str),
    ("uid", m.uid.map .str)]

/-- An object without a name has the empty name. -/
def key (m : Metadata) : Key := ⟨m.ns, m.name.getD ""⟩

def isDeleting (m : Metadata) : Bool := m.deletionTimestamp.isSome

def hasMarker (m : Metadata) (marker : String) : Bool :=
  (m.finalizers.getD []).contains marker

def label? (m : Metadata) (name : String) : Option String :=
  (m.labels.getD []).get? name

end Metadata
end AgentOperator
