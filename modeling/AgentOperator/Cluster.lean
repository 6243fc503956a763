import AgentOperator.Cluster.Inventory
import AgentOperator.Store.Program

/-!
A cluster's store in memory. Every write takes the next version and stamps the object with it; a
replacement must name the version it replaces. An object with finalizers is not deleted but marked
as being deleted, and goes when a replacement drops the last of them. Rules make calls fail.
-/
namespace AgentOperator

structure FaultRule where
  verb : Verb
  kind : Option Kind := none
  name : Option String := none
  /-- Matching calls that still pass. -/
  skip : Nat := 0
  /-- Calls that still fail; none means all. -/
  times : Option Nat := none
  error : StoreError
  deriving DecidableEq, Repr

namespace FaultRule

def covers (rule : FaultRule) (call : Call) : Bool :=
  rule.verb = call.verb && rule.kind.all (· = call.slot.kind) &&
    rule.name.all (· = call.slot.key.name)

/-- The first rule that is neither used up nor still skipping decides; rules before it that skip
lose one of their skips. -/
def consult (call : Call) : List FaultRule → Option StoreError × List FaultRule
  | [] => (none, [])
  | rule :: rest =>
    let pass (rule : FaultRule) :=
      let (error, rest) := consult call rest
      (error, rule :: rest)
    if !rule.covers call || rule.times = some 0 then pass rule
    else if 0 < rule.skip then pass { rule with skip := rule.skip - 1 }
    else (some rule.error, { rule with times := rule.times.map (· - 1) } :: rest)

end FaultRule

structure Cluster where
  inventory : Inventory := []
  version : Nat := 0
  tokens : Nat := 0
  faults : List FaultRule := []
  /-- Whether an apply withdraws a requested deletion. -/
  revives : Bool := false

namespace Cluster

def find? (c : Cluster) (slot : Slot) : Option Object := c.inventory.find? slot

def stamp (object : Object) (version : Nat) : Object :=
  object.withMetadata fun m => { m with resourceVersion := some (toString version) }

/-- Stores an object under the next version and gives it back as stored. -/
def write (c : Cluster) (slot : Slot) (object : Object) : Object × Cluster :=
  let version := c.version + 1
  let stamped := stamp object version
  (stamped, { c with version, inventory := c.inventory.put slot stamped })

def remove (c : Cluster) (slot : Slot) : Cluster :=
  { c with inventory := c.inventory.remove slot }

def notFound (slot : Slot) : StoreError := .notFound (slot.ident.render ++ " not found")

def freshUid (slot : Slot) : String :=
  "uid-" ++ slot.kind.name.toLower ++ "-" ++ slot.key.name

def insert (c : Cluster) (r : Resource) : Object × Cluster :=
  c.write r.slot <| r.object.withMetadata fun m =>
    { m with uid := some (freshUid r.slot), generation := some (m.generation.getD 1) }

/-- What a replacement cannot change: status, identity, generation and a requested deletion. -/
def keepOwn (stored given : Object) : Object :=
  (given.withStatus stored.status?).withMetadata fun m =>
    { m with
      uid := stored.metadata.uid
      generation := stored.metadata.generation
      deletionTimestamp := stored.metadata.deletionTimestamp }

/-- What an apply makes of a stored object, but for the version. -/
def merged (c : Cluster) (stored given : Object) : Object :=
  (keepOwn stored given).withMetadata fun m =>
    { m with
      finalizers := stored.metadata.finalizers
      deletionTimestamp :=
        if c.revives then given.metadata.deletionTimestamp else m.deletionTimestamp }

def isReleased (object : Object) : Bool :=
  object.metadata.isDeleting && (object.metadata.finalizers.getD []).isEmpty

/-- The stored object, if `given` names its version. -/
def current (c : Cluster) (slot : Slot) (given : Object) : Except StoreError Object :=
  match c.find? slot with
  | none => .error (notFound slot)
  | some stored =>
    if stored.metadata.resourceVersion = given.metadata.resourceVersion then .ok stored
    else .error (.conflict (slot.ident.render ++ " was modified"))

def get (c : Cluster) (slot : Slot) : Except StoreError Object :=
  match c.find? slot with
  | some object => .ok object
  | none => .error (notFound slot)

def create (c : Cluster) (r : Resource) : Except StoreError Object × Cluster :=
  match c.find? r.slot with
  | some _ => (.error (.alreadyExists r.ident.render), c)
  | none =>
    let (object, c) := c.insert r
    (.ok object, c)

def replace (c : Cluster) (r : Resource) : Except StoreError Object × Cluster :=
  match c.current r.slot r.object with
  | .error error => (.error error, c)
  | .ok stored =>
    let (object, c) := c.write r.slot (keepOwn stored r.object)
    (.ok object, if isReleased object then c.remove r.slot else c)

def replaceStatus (c : Cluster) (r : Resource) : Except StoreError Object × Cluster :=
  match c.current r.slot r.object with
  | .error error => (.error error, c)
  | .ok stored =>
    let (object, c) := c.write r.slot (stored.withStatus r.object.status?)
    (.ok object, c)

def apply (c : Cluster) (r : Resource) : Except StoreError Object × Cluster :=
  match c.find? r.slot with
  | none =>
    let (object, c) := c.insert r
    (.ok object, c)
  | some stored =>
    let (object, c) := c.write r.slot (c.merged stored r.object)
    (.ok object, c)

def delete (c : Cluster) (now : Timestamp) (slot : Slot) : Except StoreError Unit × Cluster :=
  match c.find? slot with
  | none => (.error (notFound slot), c)
  | some stored =>
    if (stored.metadata.finalizers.getD []).isEmpty then (.ok (), c.remove slot)
    else if stored.metadata.isDeleting then (.ok (), c)
    else
      let marked := stored.withMetadata fun m =>
        { m with deletionTimestamp := some { now with nanos := 0 } }
      (.ok (), (c.write slot marked).2)

def issueToken (c : Cluster) (account : Key) (request : TokenRequest) :
    Except StoreError String :=
  match c.find? ⟨.serviceAccount, account⟩ with
  | none => .error (notFound ⟨.serviceAccount, account⟩)
  | some _ => .ok s!"token-{account.name}-{request.ttl.secs}-{c.tokens}"

def carryOut (c : Cluster) (now : Timestamp) : (call : Call) → call.Answer × Cluster
  | .get slot => (c.get slot, c)
  | .create r => c.create r
  | .replace r => c.replace r
  | .replaceStatus r => c.replaceStatus r
  | .delete slot => c.delete now slot
  | .apply r _ _ => c.apply r
  | .requestToken account request => (c.issueToken account request, c)

/-- Token requests are counted whether they fail or not. -/
def perform (c : Cluster) (now : Timestamp) (call : Call) : call.Answer × Cluster :=
  let counted := if call.verb = .requestToken then { c with tokens := c.tokens + 1 } else c
  let (fault, faults) := FaultRule.consult call counted.faults
  let consulted := { counted with faults }
  match fault with
  | some error => (.error error, consulted)
  | none => consulted.carryOut now call

end Cluster
end AgentOperator
