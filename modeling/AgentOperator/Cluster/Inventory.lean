import AgentOperator.Object

/-!
The objects of a cluster, one per slot, in the order of the slots. Removing an object collects
whatever refers to it as an owner, and so on.
-/
namespace AgentOperator

abbrev Inventory := List (Slot × Object)

namespace Inventory

def find? (inv : Inventory) (slot : Slot) : Option Object := List.lookup slot inv

def put (inv : Inventory) (slot : Slot) (object : Object) : Inventory :=
  match inv with
  | [] => [(slot, object)]
  | (s, o) :: rest =>
    if slot = s then (slot, object) :: rest
    else if slot.before s then (slot, object) :: (s, o) :: rest
    else (s, o) :: put rest slot object

@[simp] theorem find?_nil (slot : Slot) : find? [] slot = none := rfl

@[simp] theorem find?_cons (s : Slot) (o : Object) (rest : Inventory) (slot : Slot) :
    find? ((s, o) :: rest) slot = if slot = s then some o else find? rest slot := by
  by_cases same : slot = s
  · simp [find?, same]
  · have no : (slot == s) = false := by simpa using same
    simp [find?, List.lookup_cons, no, same]

theorem find?_put (inv : Inventory) (slot : Slot) (object : Object) (other : Slot) :
    (inv.put slot object).find? other = if other = slot then some object else inv.find? other := by
  induction inv with
  | nil => simp [put]
  | cons entry rest ih =>
    obtain ⟨s, o⟩ := entry
    simp only [put]
    split
    · next same =>
      subst same
      by_cases h : other = slot <;> simp [h]
    · next different =>
      split
      · simp
      · simp only [find?_cons, ih]
        by_cases h : other = s
        · subst h
          simp [Ne.symm different]
        · simp [h]

def erase (inv : Inventory) (slot : Slot) : Inventory := inv.filter (·.1 ≠ slot)

def ownedBy (uids : List String) (object : Object) : Bool :=
  (object.metadata.ownerReferences.getD []).any fun reference => uids.contains reference.uid

/-- Removes what refers to one of `uids`, then what refers to that, for as many rounds as given. -/
def collectRounds : Nat → List String → Inventory → Inventory
  | 0, _, inv => inv
  | rounds + 1, uids, inv =>
    let (orphans, rest) := inv.partition fun entry => ownedBy uids entry.2
    if orphans.isEmpty then rest
    else collectRounds rounds (orphans.filterMap fun entry => entry.2.metadata.uid) rest

/-- Every round removes an object or is the last. -/
def collect (uids : List String) (inv : Inventory) : Inventory :=
  collectRounds (inv.length + 1) uids inv

/-- Removes an object and its dependents. An object without uid has none. -/
def remove (inv : Inventory) (slot : Slot) : Inventory :=
  match inv.find? slot with
  | none => inv
  | some object => collect object.metadata.uid.toList (inv.erase slot)

end Inventory
end AgentOperator
