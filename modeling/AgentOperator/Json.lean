import AgentOperator.Fields

/-!
JSON values. Integers are those of 64 bits, signed or unsigned; every other number is a binary64
value, kept as its bits so that equality is decidable. Objects are in key order.
-/
namespace AgentOperator

inductive Json where
  | null
  | bool (value : Bool)
  | int (value : Int)
  | float (bits : UInt64)
  | str (value : String)
  | arr (items : List Json)
  | obj (fields : List (String × Json))
  deriving Inhabited

namespace Json

mutual

def same : Json → Json → Bool
  | .null, .null => true
  | .bool a, .bool b => a == b
  | .int a, .int b => a == b
  | .float a, .float b => a == b
  | .str a, .str b => a == b
  | .arr a, .arr b => sameItems a b
  | .obj a, .obj b => sameFields a b
  | _, _ => false

def sameItems : List Json → List Json → Bool
  | [], [] => true
  | a :: as, b :: bs => same a b && sameItems as bs
  | _, _ => false

def sameFields : List (String × Json) → List (String × Json) → Bool
  | [], [] => true
  | (k, a) :: as, (l, b) :: bs => k == l && same a b && sameFields as bs
  | _, _ => false

end

mutual

theorem same_iff : ∀ a b : Json, same a b = true ↔ a = b
  | .arr a, b => by cases b <;> simp [same, sameItems_iff]
  | .obj a, b => by cases b <;> simp [same, sameFields_iff]
  | .null, b => by cases b <;> simp [same]
  | .bool _, b => by cases b <;> simp [same]
  | .int _, b => by cases b <;> simp [same]
  | .float _, b => by cases b <;> simp [same]
  | .str _, b => by cases b <;> simp [same]

theorem sameItems_iff : ∀ a b : List Json, sameItems a b = true ↔ a = b
  | [], b => by cases b <;> simp [sameItems]
  | x :: xs, b => by cases b <;> simp [sameItems, same_iff, sameItems_iff]

theorem sameFields_iff : ∀ a b : List (String × Json), sameFields a b = true ↔ a = b
  | [], b => by cases b <;> simp [sameFields]
  | (k, x) :: xs, b => by cases b <;> simp [sameFields, same_iff, sameFields_iff, Prod.ext_iff]

end

instance : DecidableEq Json := fun a b =>
  decidable_of_iff (same a b = true) (same_iff a b)

def get? (key : String) : Json → Option Json
  | .obj fields => Fields.get? fields key
  | _ => none

/-- The member `key`, where an absent member reads as null. -/
def get (key : String) (json : Json) : Json :=
  (json.get? key).getD .null

def str? : Json → Option String
  | .str value => some value
  | _ => none

def bool? : Json → Option Bool
  | .bool value => some value
  | _ => none

def nat? : Json → Option Nat
  | .int (.ofNat value) => some value
  | _ => none

def arr? : Json → Option (List Json)
  | .arr items => some items
  | _ => none

def obj? : Json → Option (Fields Json)
  | .obj fields => some fields
  | _ => none

def int? : Json → Option Int
  | .int value => some value
  | _ => none

/-- The texts of a list; what is no text is passed over. -/
def texts? (json : Json) : Option (List String) := json.arr?.map (·.filterMap str?)

/-- The texts of an object by their keys; what is no text is passed over. -/
def textMap? (json : Json) : Option (Fields String) :=
  json.obj?.map (·.filterMap fun entry => entry.2.str?.map (entry.1, ·))

def member? (json : Json) (key : String) (read : Json → Option α) : Option α :=
  (json.get? key).bind read

def nat (value : Nat) : Json := .int value

/-- An object from members in any order; of equal keys the last counts. -/
def object (entries : List (String × Json)) : Json :=
  .obj (Fields.ofList entries)

/-- As `object`, where a member without a value is left out. -/
def objectSome (entries : List (String × Option Json)) : Json :=
  object (entries.filterMap fun entry => entry.2.map (entry.1, ·))

def strs (values : List String) : Json :=
  .arr (values.map .str)

def strMap (values : Fields String) : Json :=
  .obj (values.mapValues .str)

def ofOption (f : α → Json) (value : Option α) : Json :=
  (value.map f).getD .null

/-! ### Merge patches

A patch that is an object is merged member by member, null removes a member, and any other patch
takes the place of the value. -/

mutual

def merge (target : Json) : Json → Json
  | .obj patch => .obj (mergeFields ((target.obj?).getD []) patch)
  | other => other

def mergeFields (target : Fields Json) : List (String × Json) → Fields Json
  | [] => target
  | (key, .null) :: rest => mergeFields (target.erase key) rest
  | (key, patch) :: rest =>
    mergeFields (target.insert key (merge ((target.get? key).getD .null) patch)) rest

end

end Json
end AgentOperator
