import AgentOperator.Watch.Sighting

/-!
One watch as its loop reads it. First everything is listed; then a watch is open, through which
changes come until it is closed, and after that it is opened again. A list is read as a whole or not
at all.
-/
namespace AgentOperator

structure Delivery where
  change : Change
  object : Json
  deriving DecidableEq

inductive Stage where
  | unlisted
  /-- A list was asked for, and this is the answer. -/
  | answered (answer : Decoded (List Sighting))
  /-- The objects of a list that were not seen yet, and all of them. -/
  | listed (rest all : List Sighting)
  /-- What came through the watch and was not read yet, and whether more can come. -/
  | watching (inbox : List Delivery) (isOpen : Bool)

structure Feed where
  watch : Watch
  stage : Stage := .unlisted
  /-- Objects of the main kind that a pass is still to be asked for. -/
  wanted : List Key := []
  lists : Nat := 0
  watches : Nat := 0

namespace Feed

def isOpen (f : Feed) : Bool :=
  match f.stage with
  | .watching _ isOpen => isOpen
  | _ => false

def opened (f : Feed) : Feed := { f with stage := .watching [] true, watches := f.watches + 1 }

/-- What was sent before can still be read. -/
def closed (f : Feed) : Feed :=
  match f.stage with
  | .watching inbox _ => { f with stage := .watching inbox false }
  | _ => f

def receive (f : Feed) (delivery : Delivery) : Feed :=
  match f.stage with
  | .watching inbox isOpen => { f with stage := .watching (inbox ++ [delivery]) isOpen }
  | _ => f

/-- Asks for what a sighting concerns. An object of the main kind that is gone concerns nothing. -/
def want (f : Feed) (change : Change) (s : Sighting) : Feed :=
  match f.watch.relation, change with
  | .itself, .deleted => f
  | _, _ => { f with wanted := f.watch.targets s.metadata }

end Feed
end AgentOperator
