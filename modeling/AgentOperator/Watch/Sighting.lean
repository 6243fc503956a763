import AgentOperator.Watch

/-!
What a loop sees of an object that comes through one of its watches. The main kind and namespaces
are read as a whole, owned objects by their metadata; an object that cannot be read is not seen.
-/
namespace AgentOperator

structure Sighting where
  metadata : Metadata
  /-- What to work on, if the object is of the loop's main kind. -/
  subject : Option Subject := none

namespace Sighting

def ofInstance (i : Instance) : Sighting := ⟨i.metadata, some (.managed i)⟩

def ofSecret (s : Secret) : Sighting := ⟨s.metadata, some (.credential s)⟩

def ofJson (json : Json) : Sighting :=
  { metadata := ((json.get? "metadata").map Metadata.ofJson).getD {} }

/-- Metadata may be absent but not null. -/
def partialShape : Shape :=
  .record "PartialObjectMeta" .extensible [("metadata", .given, Metadata.shape)]

def namespaceShape : Shape :=
  .declared Kind.namespace.name Kind.namespace.apiVersion [
    ("metadata", Metadata.shape),
    ("spec", .api "NamespaceSpec" [("finalizers", .texts)]),
    ("status", .api "NamespaceStatus" [
      ("conditions", .sequence (.api "NamespaceCondition" [
        ("lastTransitionTime", .instant), ("message", .text), ("reason", .text),
        ("status", .text), ("type", .text)])),
      ("phase", .text)])]

def decode (loop : Loop) (w : Watch) (json : Json) : Decoded Sighting :=
  match w.relation, loop with
  | .itself, .agent => (Instance.decodeAgent json).map ofInstance
  | .itself, .scanner => (Instance.decodeScanner json).map ofInstance
  | .itself, .credential => (Secret.decode json).map ofSecret
  | .ownedBy _, _ => do
    partialShape.check json
    return ofJson json
  | .scannerNamespace, _ => do
    namespaceShape.check json
    return ofJson json

/-- The version of the object, without which a watch cannot go on. -/
def version (s : Sighting) : String := s.metadata.resourceVersion.getD ""

end Sighting
end AgentOperator
