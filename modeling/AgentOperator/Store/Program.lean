import AgentOperator.Metrics
import AgentOperator.Object
import AgentOperator.Timestamp

/-!
What the operator does to the world, as data: a program is a tree of store calls, clock readings,
sleeps and measurements, each of which goes on with whatever the world answers. Nothing is said
about those answers here, so a statement about a program covers every store and every other writer.
-/
namespace AgentOperator

/-- How a store call fails, sorted by what the caller does about it. -/
inductive StoreError where
  | notFound (text : String)
  /-- Another writer was faster, or owns a field. -/
  | conflict (text : String)
  | alreadyExists (text : String)
  | request (text : String)
  deriving DecidableEq, Repr

namespace StoreError

def message : StoreError → String
  | .notFound text => "not found: " ++ text
  | .conflict text => "conflict: " ++ text
  | .alreadyExists text => "already exists: " ++ text
  | .request text => "request failed: " ++ text

def isConflict : StoreError → Bool
  | .conflict _ => true
  | _ => false

end StoreError

structure TokenRequest where
  audiences : List String
  ttl : Duration
  deriving DecidableEq, Repr

inductive Verb where
  | get
  | create
  | replace
  | replaceStatus
  | delete
  | apply
  | requestToken
  deriving DecidableEq, Repr

namespace Verb

def all : List Verb := [.get, .create, .replace, .replaceStatus, .delete, .apply, .requestToken]

def name : Verb → String
  | .get => "get"
  | .create => "create"
  | .replace => "replace"
  | .replaceStatus => "replace_status"
  | .delete => "delete"
  | .apply => "apply"
  | .requestToken => "request_token"

def ofName? (name : String) : Option Verb := all.find? (·.name = name)

end Verb

inductive Call where
  | get (slot : Slot)
  | create (resource : Resource)
  | replace (resource : Resource)
  | replaceStatus (resource : Resource)
  | delete (slot : Slot)
  | apply (resource : Resource) (manager : String) (force : Bool)
  | requestToken (account : Key) (request : TokenRequest)
  deriving DecidableEq

namespace Call

abbrev Reply : Call → Type
  | .get _ | .create _ | .replace _ | .replaceStatus _ | .apply _ _ _ => Object
  | .delete _ => Unit
  | .requestToken _ _ => String

abbrev Answer (c : Call) : Type := Except StoreError c.Reply

def slot : Call → Slot
  | .get slot | .delete slot => slot
  | .create r | .replace r | .replaceStatus r | .apply r _ _ => r.slot
  | .requestToken account _ => ⟨.serviceAccount, account⟩

def verb : Call → Verb
  | .get _ => .get
  | .create _ => .create
  | .replace _ => .replace
  | .replaceStatus _ => .replaceStatus
  | .delete _ => .delete
  | .apply _ _ _ => .apply
  | .requestToken _ _ => .requestToken

end Call

/-- A reading of both clocks: the wall clock, and the time that has run since some start. -/
structure Moment where
  wall : Timestamp
  elapsed : Duration
  deriving DecidableEq, Repr

inductive Program (α : Type) where
  | done (value : α)
  | call (c : Call) (next : c.Answer → Program α)
  | clock (next : Moment → Program α)
  | sleep (span : Duration) (next : Program α)
  | measure (m : Measurement) (next : Program α)

namespace Program
variable {α β γ : Type}

def bind : Program α → (α → Program β) → Program β
  | .done value, f => f value
  | .call c next, f => .call c fun answer => (next answer).bind f
  | .clock next, f => .clock fun moment => (next moment).bind f
  | .sleep span next, f => .sleep span (next.bind f)
  | .measure m next, f => .measure m (next.bind f)

instance : Monad Program where
  pure := .done
  bind := bind

theorem bind_done (p : Program α) : p.bind .done = p := by
  induction p <;> simp_all [bind]

theorem bind_assoc (p : Program α) (f : α → Program β) (g : β → Program γ) :
    (p.bind f).bind g = p.bind fun a => (f a).bind g := by
  induction p <;> simp_all [bind]

instance : LawfulMonad Program :=
  LawfulMonad.mk' Program bind_done (fun _ _ => rfl) bind_assoc

def send (c : Call) : Program c.Answer := .call c .done

def get (slot : Slot) : Program (Except StoreError Object) := send (.get slot)

def create (resource : Resource) : Program (Except StoreError Object) := send (.create resource)

def replace (resource : Resource) : Program (Except StoreError Object) := send (.replace resource)

def replaceStatus (resource : Resource) : Program (Except StoreError Object) :=
  send (.replaceStatus resource)

def delete (slot : Slot) : Program (Except StoreError Unit) := send (.delete slot)

def apply (resource : Resource) (manager : String) (force : Bool) :
    Program (Except StoreError Object) :=
  send (.apply resource manager force)

def requestToken (account : Key) (request : TokenRequest) : Program (Except StoreError String) :=
  send (.requestToken account request)

def now : Program Moment := .clock .done

def pause (span : Duration) : Program Unit := .sleep span (.done ())

def record (m : Measurement) : Program Unit := .measure m (.done ())

end Program
end AgentOperator
