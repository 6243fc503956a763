import AgentOperator.Text.Encoding
import AgentOperator.Watch.Intake
import AgentOperator.Watch.Slots
import AgentOperator.World.Session

/-!
The control loops at work in a world of its own. A timeline of changes and watch events is played
against them; passes of different objects run side by side and go on whenever what they wait for is
over. Writes of the passes do not come back as events.
-/
namespace AgentOperator

inductive EventSource where
  | inline (object : Json)
  | stored (slot : Slot)
  | copy (name : String)
  deriving DecidableEq

inductive Happening where
  /-- A change of the store that the loops do not see. -/
  | change (f : Session → Session)
  | event (change : Change) (source : EventSource)
  | closeWatches

structure Simulation where
  session : Session
  intakes : List Intake := Loop.all.map Intake.start
  slots : Slots := []
  timeline : List (Duration × Happening) := []
  /-- No pass starts from then on, and no watch is read. -/
  deadline : Duration
  stopped : Bool := false

namespace Simulation

def now (s : Simulation) : Duration := s.session.world.elapsed

def intake? (s : Simulation) (loop : Loop) : Option Intake := s.intakes.find? (·.loop = loop)

def list (s : Simulation) (loop : Loop) (watch : Watch) : Decoded (List Sighting) :=
  let selected := s.session.world.cluster.inventory.filter fun entry =>
    entry.1.kind = watch.kind && watch.selects entry.2.metadata
  selected.mapM fun entry => Sighting.decode loop watch entry.2.encode

def request (s : Simulation) (target : Target) : Simulation :=
  { s with slots := s.slots.set target ((s.slots.get target).request s.now) }

def turnLimit : Nat := 1000000

def readAll (s : Simulation) : Simulation :=
  if s.stopped then s
  else
    let readings := s.intakes.map fun i => (i.loop, i.read s.list s.now turnLimit)
    let targets := readings.flatMap fun (loop, keys, _) => keys.map fun key => ⟨loop, key⟩
    targets.foldl request { s with intakes := readings.map (·.2.2) }

def versioned (object : Json) : Json :=
  let metadata := object.get "metadata"
  let stamped (members : Fields Json) : Json := .obj (members.insert "resourceVersion" (.str "1"))
  match object, metadata, metadata.get "resourceVersion" with
  | .obj fields, .obj members, .null => .obj (Fields.insert fields "metadata" (stamped members))
  | .obj fields, .null, _ => .obj (Fields.insert fields "metadata" (stamped []))
  | _, _, _ => object

def resolve (s : Simulation) : EventSource → Option (Kind × Json)
  | .stored slot => (s.session.stored slot).toOption.map fun object => (slot.kind, object.encode)
  | .inline object => declared object
  | .copy name => (s.session.copies.get? name).bind fun object => declared object.encode
where
  declared (object : Json) : Option (Kind × Json) :=
    ((object.member? "kind" Json.str?).bind Kind.ofName?).map fun kind => (kind, versioned object)

def happen (s : Simulation) : Happening → Simulation
  | .change f => { s with session := f s.session }
  | .closeWatches => { s with intakes := s.intakes.map Intake.close }
  | .event change source =>
    match s.resolve source with
    | some (kind, object) =>
      { s with intakes := s.intakes.map fun i => i.deliver kind ⟨change, object⟩ }
    | none => s

def advance (world : World) : Program α → (α ⊕ Duration × Program α) × World
  | .done value => (.inl value, world)
  | .call call next =>
    let (answer, world) := world.perform call
    advance world (next answer)
  | .clock next => advance world (next world.moment)
  | .sleep span next => (.inr (world.elapsed + World.sleepTime world.elapsed span, next), world)
  | .measure m next => advance { world with metrics := world.metrics.add m } next

def nextDue (now : Duration) : Requeue → Option Duration
  | .awaitChange => none
  | .after delay => some (now + .ofMillis delay.ceilMillis)

def proceed (s : Simulation) (target : Target) (subject : Subject)
    (program : Program (Except TurnError Requeue)) : Simulation :=
  let (stage, world) := advance s.session.world program
  let state := s.slots.get target
  match stage with
  | .inr (wake, rest) =>
    { s with
      session := { s.session with world }
      slots := s.slots.set target { state with running := some ⟨subject, rest, wake⟩ } }
  | .inl result =>
    let (requeue, failures, measurements) :=
      subject.settle s.session.settings s.session.failures result
    { s with
      session := { s.session with
        failures
        world := { world with metrics := world.metrics.addAll measurements } }
      slots := s.slots.set target (state.finish s.now (nextDue s.now requeue)) }

/-- Starts the pass of a target that is due, on what is known of it now. An object that is no longer
known is passed over. -/
def start (s : Simulation) (target : Target) : Simulation :=
  match (s.intake? target.loop).bind (·.find? target.key) with
  | none => { s with slots := s.slots.set target {} }
  | some subject =>
    let program := subject.turn s.session.settings s.session.policy
    { s with slots := s.slots.set target ({} : SlotState) }.proceed target subject program

inductive Event where
  | happening (item : Happening) (rest : List (Duration × Happening))
  | stop
  | wake (target : Target) (running : Running)
  /-- A loop reads on after a pause. -/
  | resume
  | start (target : Target)

/-- The events that could come next, with their times; of those at one time the first comes first.
-/
def candidates (s : Simulation) : List (Duration × Event) :=
  let happenings := match s.timeline with
    | (time, item) :: rest => [(time, Event.happening item rest)]
    | [] => []
  let stop := if s.stopped then [] else [(s.deadline, Event.stop)]
  let wakes := s.slots.filterMap fun (target, state) =>
    state.running.map fun running => (running.wake, Event.wake target running)
  let resumes := if s.stopped then [] else
    (s.intakes.filter (·.pause.holds s.now)).map fun i => (i.pause.ends, Event.resume)
  let ready (loop : Loop) : Bool := (s.intake? loop).any (·.ready)
  let starts := if s.stopped then [] else s.slots.filterMap fun (target, state) =>
    if state.running.isSome || !ready target.loop then none
    else state.due.map fun due => (due, Event.start target)
  happenings ++ stop ++ wakes ++ resumes ++ starts

def earliest : List (Duration × Event) → Option (Duration × Event)
  | [] => none
  | event :: rest =>
    match earliest rest with
    | some other => if event.1 ≤ other.1 then some event else some other
    | none => some event

def perform (s : Simulation) (time : Duration) (event : Event) : Simulation :=
  let world := s.session.world
  let s := { s with session := { s.session with
    world := { world with elapsed := ⟨max world.elapsed.nanos time.nanos⟩ } } }
  match event with
  | .happening item rest => ({ s with timeline := rest }.happen item).readAll
  | .stop => { s with stopped := true }
  | .wake target running => s.proceed target running.subject running.rest
  | .resume => s.readAll
  | .start target => s.start target

/-- Plays events until none is left, at most as many as given. -/
def play : Nat → Simulation → Simulation
  | 0, s => s
  | limit + 1, s =>
    match earliest s.candidates with
    | none => s
    | some (time, event) => play limit (s.perform time event)

def eventLimit : Nat := 1000000

/-- What happens at the start precedes the first lists. -/
def begin (s : Simulation) : Simulation :=
  let first := s.timeline.takeWhile (·.1.nanos = 0)
  let rest := s.timeline.dropWhile (·.1.nanos = 0)
  (first.foldl (fun (s : Simulation) item => s.happen item.2) { s with timeline := rest }).readAll

def run (s : Simulation) : Simulation := s.begin.play eventLimit

/-! Requests of the watches -/

def pageSize : Nat := 500

def watchTimeout : Nat := 25

def selectorPart (w : Watch) : List String :=
  w.selector.toList.map fun s => "labelSelector=" ++ Text.FormEncoded.encode s.render

def requestLine (w : Watch) (path : String) (query : List String) : String :=
  let view := if w.metadataOnly then "metadata" else "full"
  path ++ " " ++ "&".intercalate query ++ " " ++ view

def listLine (path : Kind → String) (w : Watch) : String :=
  requestLine w (path w.kind) (selectorPart w ++ [s!"limit={pageSize}"])

def watchLine (path : Kind → String) (w : Watch) : String :=
  requestLine w (path w.kind)
    (["allowWatchBookmarks=true"] ++ selectorPart w ++
      [s!"timeoutSeconds={watchTimeout}", "watch=true"])

def countLine (counts : Fields Nat) (times : Nat) (line : String) : Fields Nat :=
  if times = 0 then counts else counts.update line 0 (· + times)

def requests (s : Simulation) (path : Kind → String) : Fields Nat :=
  (s.intakes.flatMap Intake.feeds).foldl (fun counts feed =>
    countLine (countLine counts feed.lists (listLine path feed.watch)) feed.watches
      (watchLine path feed.watch)) []

end Simulation
end AgentOperator
