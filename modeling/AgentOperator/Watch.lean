import AgentOperator.ControlLoop

/-!
What the control loops watch and what a change leads to. Each loop has a main kind, whose objects it
looks at, and kinds that it watches because of them: objects that an instance owns, found by their
owner references, and the namespaces of scanners, found by their labels.
-/
namespace AgentOperator

inductive Loop where
  | agent
  | scanner
  | credential
  deriving DecidableEq, Repr

structure LabelSelector where
  label : String
  value : String
  deriving DecidableEq, Repr

namespace LabelSelector

def holds (s : LabelSelector) (m : Metadata) : Bool := m.label? s.label = some s.value

/-- Whether an object that may be of any form has the label. -/
def holdsOn (s : LabelSelector) (object : Json) : Bool :=
  ((object.get "metadata").get "labels").get s.label = .str s.value

def render (s : LabelSelector) : String := s.label ++ "=" ++ s.value

def managed : LabelSelector := ⟨Conventions.managedByLabel, Conventions.fieldManager⟩

def credential : LabelSelector := ⟨Conventions.credentialLabel, "true"⟩

end LabelSelector

inductive Relation where
  | itself
  | ownedBy (owner : Kind)
  | scannerNamespace
  deriving DecidableEq, Repr

structure Watch where
  kind : Kind
  selector : Option LabelSelector
  relation : Relation
  deriving DecidableEq, Repr

namespace Watch

/-- Owned objects are watched by their metadata only. -/
def metadataOnly (w : Watch) : Bool :=
  match w.relation with
  | .ownedBy _ => true
  | _ => false

def selects (w : Watch) (m : Metadata) : Bool := w.selector.all (·.holds m)

def passes (w : Watch) (kind : Kind) (object : Json) : Bool :=
  w.kind = kind && w.selector.all (·.holdsOn object)

def owned (owner kind : Kind) : Watch := ⟨kind, some .managed, .ownedBy owner⟩

end Watch

namespace Loop

def all : List Loop := [.agent, .scanner, .credential]

def main : Loop → Watch
  | .agent => ⟨.nodeAgent, none, .itself⟩
  | .scanner => ⟨.nodeScanner, none, .itself⟩
  | .credential => ⟨.secret, some .credential, .itself⟩

def related : Loop → List Watch
  | .agent =>
    [.serviceAccount, .configMap, .service, .daemonSet, .secret].map (Watch.owned .nodeAgent)
  | .scanner =>
    ⟨.namespace, some .managed, .scannerNamespace⟩ ::
      [.serviceAccount, .configMap, .daemonSet].map (Watch.owned .nodeScanner)
  | .credential => []

def watches (l : Loop) : List Watch := l.main :: l.related

end Loop

/-- The owners of a kind that an object refers to. Whether a reference is the controlling one is not
looked at. An owner is named in the namespace of the object. -/
def Metadata.ownersOf (m : Metadata) (owner : Kind) : List Key :=
  (m.ownerReferences.getD []).filterMap fun reference =>
    if reference.apiVersion = owner.apiVersion ∧ reference.kind = owner.name then
      some ⟨m.ns, reference.name⟩
    else none

def Metadata.scannerOf (m : Metadata) : Option Key :=
  if m.label? Conventions.appLabel = some Conventions.scannerApp then
    (m.label? Conventions.instanceLabel).map .cluster
  else none

def Watch.targets (w : Watch) (m : Metadata) : List Key :=
  match w.relation with
  | .itself => [m.key]
  | .ownedBy owner => m.ownersOf owner
  | .scannerNamespace => m.scannerOf.toList

inductive Change where
  | added
  | modified
  | deleted
  deriving DecidableEq, Repr

end AgentOperator
