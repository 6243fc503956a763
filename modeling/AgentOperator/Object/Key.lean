import AgentOperator.Object.Kind

/-! What an object is called: namespace and name, and with its kind. -/
namespace AgentOperator

/-- A cluster-scoped object has no namespace. -/
structure Key where
  ns : Option String
  name : String
  deriving DecidableEq, Repr, Inhabited

namespace Key

def namespaced (ns name : String) : Key := ⟨some ns, name⟩

def cluster (name : String) : Key := ⟨none, name⟩

def render (key : Key) : String :=
  match key.ns with
  | some ns => ns ++ "/" ++ key.name
  | none => key.name

/-- The first slash divides. -/
def parse (text : String) : Key :=
  let chars := text.toList
  match chars.dropWhile (· ≠ '/') with
  | [] => .cluster text
  | _ :: name => .namespaced (String.ofList (chars.takeWhile (· ≠ '/'))) (String.ofList name)

def before (a b : Key) : Bool :=
  match a.ns, b.ns with
  | none, some _ => true
  | some _, none => false
  | none, none => a.name < b.name
  | some m, some n => m < n || (m = n && a.name < b.name)

end Key

structure Ident where
  kind : String
  key : Key
  deriving DecidableEq, Repr, Inhabited

def Ident.render (id : Ident) : String := id.kind ++ " " ++ id.key.render

/-- Where an object is kept: one object per kind and key. -/
structure Slot where
  kind : Kind
  key : Key
  deriving DecidableEq, Repr

namespace Slot

def ident (slot : Slot) : Ident := ⟨slot.kind.name, slot.key⟩

/-- By kind name, then namespace with none first, then name. -/
def before (a b : Slot) : Bool :=
  a.kind.name < b.kind.name || (a.kind = b.kind && a.key.before b.key)

end Slot
end AgentOperator
