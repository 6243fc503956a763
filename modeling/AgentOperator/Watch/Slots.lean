import AgentOperator.Watch

/-!
When each object of a loop is due. One request per object is kept: an earlier one takes the place of
a later one. While a pass of the object runs, any number of requests lead to one further pass after
it.
-/
namespace AgentOperator

structure Target where
  loop : Loop
  key : Key
  deriving DecidableEq, Repr

/-- A pass that is under way: what it works on, what is left to do, and when it goes on. -/
structure Running where
  subject : Subject
  rest : Program (Except TurnError Requeue)
  wake : Duration

structure SlotState where
  due : Option Duration := none
  /-- A request came while the pass ran. -/
  again : Bool := false
  running : Option Running := none

abbrev Slots := List (Target × SlotState)

namespace Slots

def get (slots : Slots) (target : Target) : SlotState := (List.lookup target slots).getD {}

def set (slots : Slots) (target : Target) (state : SlotState) : Slots :=
  match slots with
  | [] => [(target, state)]
  | (t, s) :: rest =>
    if t = target then (target, state) :: rest else (t, s) :: set rest target state

theorem get_cons (t : Target) (s : SlotState) (rest : Slots) (target : Target) :
    get ((t, s) :: rest) target = if target = t then s else get rest target := by
  by_cases same : target = t
  · simp [get, same]
  · have no : (target == t) = false := by simpa using same
    simp [get, List.lookup_cons, no, same]

theorem get_set (slots : Slots) (target : Target) (state : SlotState) (other : Target) :
    (slots.set target state).get other = if other = target then state else slots.get other := by
  induction slots with
  | nil => rw [set, get_cons]
  | cons entry rest ih =>
    obtain ⟨t, s⟩ := entry
    simp only [set]
    split
    · next same =>
      subst same
      by_cases h : other = t <;> simp [get_cons, h]
    · next different =>
      simp only [get_cons, ih]
      by_cases h : other = t
      · subst h
        simp [different]
      · simp [h]

end Slots

namespace SlotState

def request (s : SlotState) (time : Duration) : SlotState :=
  if s.again then s
  else if s.running.isSome then { s with again := true }
  else
    match s.due with
    | some due => if time ≤ due then { s with due := some time } else s
    | none => { s with due := some time }

/-- After a pass: a request that came meanwhile is due now, whatever the pass asks for. -/
def finish (s : SlotState) (now : Duration) (next : Option Duration) : SlotState :=
  { due := if s.again then some now else next }

end SlotState
end AgentOperator
