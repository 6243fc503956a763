import AgentOperator.Watch.Feed
import AgentOperator.Watch.Pause

/-!
What a loop takes in. Its watches take turns: one that brought a request or a fault goes behind the
others, and one that has nothing to bring waits until something comes. Answers to lists are read
once nothing else is left. What is known of the main kind changes as its watch is read.
-/
namespace AgentOperator

structure Intake where
  loop : Loop
  /-- Objects of the main kind by their keys. -/
  known : List (Key × Subject) := []
  /-- The main kind was listed once; no pass starts before that. -/
  ready : Bool := false
  /-- Watches to be read, the next one first. -/
  queue : List Feed
  /-- Watches that asked for a list. -/
  asking : List Feed := []
  /-- Watches with nothing to bring. -/
  waiting : List Feed := []
  pause : Pause := {}

namespace Intake

/-- The main watch is read first. -/
def start (loop : Loop) : Intake := { loop, queue := loop.watches.map fun watch => { watch } }

def feeds (i : Intake) : List Feed := i.queue ++ i.asking ++ i.waiting

/-- The object of that key or, if there is none, the one of that name without namespace. -/
def find? (i : Intake) (key : Key) : Option Subject :=
  (i.known.lookup key).or (i.known.lookup (.cluster key.name))

def insert (known : List (Key × Subject)) (s : Sighting) : List (Key × Subject) :=
  match s.subject with
  | some subject => (s.metadata.key, subject) :: known.filter (·.1 ≠ s.metadata.key)
  | none => known

/-- What is known after a sighting; only the main watch brings subjects. -/
def note (known : List (Key × Subject)) (change : Change) (s : Sighting) : List (Key × Subject) :=
  match change, s.subject with
  | .deleted, some _ => known.filter (·.1 ≠ s.metadata.key)
  | _, _ => insert known s

/-- A complete list takes the place of what was known. -/
def adopt (i : Intake) (f : Feed) (all : List Sighting) : Intake :=
  if f.watch.relation = .itself then { i with known := all.foldl insert [], ready := true } else i

/-- Stops all reading for a while. Lists that were asked for are answered meanwhile. -/
def fault (i : Intake) (now : Duration) (f : Feed) : Intake :=
  { i with
    queue := i.queue ++ [f] ++ i.asking
    asking := []
    pause := i.pause.fault now }

abbrev Lister := Loop → Watch → Decoded (List Sighting)

def readFeed (lister : Lister) (now : Duration) (i : Intake) (f : Feed) : Option Key × Intake :=
  match f.wanted, f.stage with
  | key :: wanted, _ => (some key, { i with queue := i.queue ++ [{ f with wanted }] })
  | [], .unlisted =>
    let asked := { f with stage := .answered (lister i.loop f.watch), lists := f.lists + 1 }
    (none, { i with asking := i.asking ++ [asked] })
  | [], .answered (.error _) => (none, i.fault now { f with stage := .unlisted })
  | [], .answered (.ok all) =>
    (none, { i with queue := { f with stage := .listed all all } :: i.queue })
  | [], .listed (s :: rest) all =>
    (none, { i with queue := { f with stage := .listed rest all }.want .added s :: i.queue })
  | [], .listed [] all => (none, { i.adopt f all with queue := f.opened :: i.queue })
  | [], .watching [] true => (none, { i with waiting := i.waiting ++ [f] })
  | [], .watching [] false => (none, { i with queue := f.opened :: i.queue })
  | [], .watching (delivery :: inbox) isOpen =>
    match Sighting.decode i.loop f.watch delivery.object with
    | .error _ => (none, i.fault now { f with stage := .watching inbox isOpen })
    | .ok s =>
      if s.version = "" then (none, i.fault now { f with stage := .unlisted })
      else
        let read := { f with stage := .watching inbox isOpen }.want delivery.change s
        (none, { i with known := note i.known delivery.change s, queue := read :: i.queue })

theorem length_feeds_fault (i : Intake) (now : Duration) (f : Feed) :
    (i.fault now f).feeds.length = i.feeds.length + 1 := by
  simp [feeds, fault]
  omega

theorem length_feeds_readFeed (lister : Lister) (now : Duration) (i : Intake) (f : Feed) :
    (readFeed lister now i f).2.feeds.length = i.feeds.length + 1 := by
  unfold readFeed
  split
  · simp [feeds]; omega
  · simp [feeds]; omega
  · exact length_feeds_fault i now _
  · simp [feeds]
  · simp [feeds]
  · simp [feeds, adopt]
    split <;> simp
  · simp [feeds]; omega
  · simp [feeds]
  · split
    · exact length_feeds_fault i now _
    · dsimp only
      split
      · exact length_feeds_fault i now _
      · simp [feeds]

/-- Reads on as long as there is anything to read, in so many turns at most. What comes out are the
requests for passes. -/
def read (lister : Lister) (now : Duration) : Nat → Intake → List Key × Intake
  | 0, i => ([], i)
  | turns + 1, i =>
    if i.pause.holds now then ([], i)
    else
      match i.queue, i.asking with
      | f :: queue, _ =>
        let (request, i) := readFeed lister now { i with queue } f
        let (requests, final) := read lister now turns i
        (request.toList ++ requests, final)
      | [], [] => ([], i)
      | [], asking => read lister now turns { i with queue := asking, asking := [] }

theorem length_feeds_read (lister : Lister) (now : Duration) (turns : Nat) (i : Intake) :
    (read lister now turns i).2.feeds.length = i.feeds.length := by
  induction turns generalizing i with
  | zero => rfl
  | succ turns ih =>
    unfold read
    split
    · rfl
    · split
      · next f queue first =>
        calc
          _ = (readFeed lister now { i with queue } f).2.feeds.length := ih _
          _ = _ := length_feeds_readFeed lister now { i with queue } f
          _ = i.feeds.length := by simp [feeds, first]
      · rfl
      · next empty _ =>
        rw [ih]
        simp [feeds, empty]

def deliver (i : Intake) (kind : Kind) (delivery : Delivery) : Intake :=
  let concerned (f : Feed) : Bool := f.isOpen && f.watch.passes kind delivery.object
  let sent (f : Feed) : Feed := if concerned f then f.receive delivery else f
  { i with
    queue := i.queue.map sent ++ (i.waiting.filter concerned).map sent
    waiting := i.waiting.filter fun f => !concerned f }

def close (i : Intake) : Intake :=
  { i with
    queue := i.queue.map Feed.closed ++ i.waiting.map Feed.closed
    waiting := [] }

end Intake
end AgentOperator
