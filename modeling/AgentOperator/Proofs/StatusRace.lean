import AgentOperator.Proofs.MarkerGate
import AgentOperator.Proofs.ObservedGeneration

/-!
A status write among other writers. Of the store no more is assumed than its versions promise:
whatever is changed at a slot gets a version that the slot has not had yet, a replacement goes
through only if it names the version that is stored, and a call that fails changes nothing. Then a
write that goes through replaces the very object that its own attempt has read, and one that does
not leaves everything as it is.
-/
namespace AgentOperator

def Object.version (object : Object) : Option String := object.metadata.resourceVersion

def Event.wrote : Event → Bool
  | .call (.replaceStatus _) (.ok _) => true
  | _ => false

/-- What a store holds, each object under its own key, and the versions that each slot has had. -/
structure Holdings where
  held : Slot → Option Object
  seen : Slot → Option String → Prop
  placed : ∀ {slot object}, held slot = some object → object.key = slot.key
  stamped : ∀ {slot object}, held slot = some object → seen slot object.version

namespace Holdings
variable {s s' : Holdings} {slot : Slot} {read : Object}

structure Renewed (s s' : Holdings) (slot : Slot) : Prop where
  remembers : ∀ version, s.seen slot version → s'.seen slot version
  renews : ∀ object, s'.held slot = some object →
    s.held slot = some object ∨ ¬ s.seen slot object.version

theorem Renewed.refl (s : Holdings) (slot : Slot) : s.Renewed s slot where
  remembers _ known := known
  renews _ found := Or.inl found

/-- One turn at the store: of others, who may change everything at once, or an own event. -/
inductive Turn : Holdings → Option Event → Holdings → Prop where
  | others {s s' : Holdings} (renewed : ∀ slot, s.Renewed s' slot) : Turn s none s'
  | read {s : Holdings} {slot : Slot} {object : Object} (found : s.held slot = some object) :
      Turn s (some (.call (.get slot) (.ok object))) s
  | failed {s : Holdings} (c : Call) (error : StoreError) : Turn s (some (.call c (.error error))) s
  | wrote {s s' : Holdings} {r : Resource} {stored object : Object}
      (found : s.held r.slot = some stored) (current : stored.version = r.object.version)
      (renewed : ∀ slot, s.Renewed s' slot) :
      Turn s (some (.call (.replaceStatus r) (.ok object))) s'
  | clock {s : Holdings} (moment : Moment) : Turn s (some (.clock moment)) s
  | sleep {s : Holdings} (span : Duration) : Turn s (some (.sleep span)) s
  | measure {s : Holdings} (m : Measurement) : Turn s (some (.measure m)) s

theorem Turn.renewed {event : Option Event} (turn : s.Turn event s') (slot : Slot) :
    s.Renewed s' slot := by
  cases turn with
  | others renewed => exact renewed slot
  | wrote found current renewed => exact renewed slot
  | read found => exact .refl s slot
  | failed c error => exact .refl s slot
  | clock moment => exact .refl s slot
  | sleep span => exact .refl s slot
  | measure m => exact .refl s slot

theorem Turn.unchanged {e : Event} (turn : s.Turn (some e) s') (idle : e.wrote = false) :
    s' = s := by
  cases turn with
  | wrote found current renewed => simp [Event.wrote] at idle
  | read found => rfl
  | failed c error => rfl
  | clock moment => rfl
  | sleep span => rfl
  | measure m => rfl

theorem Turn.of_read {object : Object}
    (turn : s.Turn (some (.call (.get slot) (.ok object))) s') :
    s.held slot = some object ∧ s' = s := by
  cases turn with
  | read found => exact ⟨found, rfl⟩

theorem Turn.of_write {r : Resource} {object : Object}
    (turn : s.Turn (some (.call (.replaceStatus r) (.ok object))) s') :
    ∃ stored, s.held r.slot = some stored ∧ stored.version = r.object.version := by
  cases turn with
  | wrote found current renewed => exact ⟨_, found, current⟩

structure Move where
  before : Holdings
  event : Option Event
  after : Holdings
  turn : before.Turn event after

/-- Moves that follow one another, from one state of the store to another. -/
inductive Race : Holdings → List Move → Holdings → Prop where
  | nil (s : Holdings) : Race s [] s
  | cons (p : Move) {rest : List Move} {s : Holdings} (later : Race p.after rest s) :
      Race p.before (p :: rest) s

def own (moves : List Move) : List Event := moves.filterMap Move.event

variable {p : Move} {moves first last : List Move}

theorem Race.split (race : Race s (first ++ last) s') :
    ∃ middle, Race s first middle ∧ Race middle last s' := by
  induction first generalizing s with
  | nil => exact ⟨s, .nil s, race⟩
  | cons p first ih =>
    cases race with
    | cons _ later =>
      obtain ⟨middle, head, tail⟩ := ih later
      exact ⟨middle, .cons p head, tail⟩

theorem Race.before_eq (race : Race s (p :: moves) s') : p.before = s := by
  cases race with
  | cons _ later => rfl

/-- Under the version of `read` the slot holds nothing but `read`. -/
structure Bound (s : Holdings) (slot : Slot) (read : Object) : Prop where
  known : s.seen slot read.version
  only : ∀ object, s.held slot = some object → object.version = read.version → object = read

theorem bound_of_held (found : s.held slot = some read) : s.Bound slot read where
  known := s.stamped found
  only object other _ := by
    rw [found] at other
    exact (Option.some.inj other).symm

theorem Renewed.bound (renewed : s.Renewed s' slot) (bound : s.Bound slot read) :
    s'.Bound slot read where
  known := renewed.remembers _ bound.known
  only := by
    intro object found same
    rcases renewed.renews object found with old | new
    · exact bound.only object old same
    · rw [same] at new
      exact absurd bound.known new

theorem Race.bound (race : Race s moves s') (bound : s.Bound slot read) :
    s'.Bound slot read := by
  induction race with
  | nil s => exact bound
  | cons p later ih => exact ih ((p.turn.renewed slot).bound bound)

theorem exists_move {earlier later : List Event} {e : Event}
    (split : own moves = earlier ++ e :: later) :
    ∃ first p last, moves = first ++ p :: last ∧ own first = earlier ∧ p.event = some e ∧
      own last = later := by
  obtain ⟨first, rest, rfl, head, tail⟩ := List.filterMap_eq_append_iff.mp split
  obtain ⟨idle, p, last, rfl, silent, event, after⟩ := List.filterMap_eq_cons_iff.mp tail
  refine ⟨first ++ idle, p, last, by simp, ?_, event, after⟩
  have none_idle : idle.filterMap Move.event = [] := by simpa using silent
  rw [own, List.filterMap_append, head, none_idle, List.append_nil]

end Holdings

namespace RetryPolicy
variable {α : Type} {policy : RetryPolicy} {retryable : StoreError → Bool}
  {operation : Program (Except StoreError α)} {retries : Nat} {delay : Duration}
  {events : List Event} {value : Except StoreError α} {tries : List (List Event)}

/-- The attempts that were made: each but the last ended in an error that is worth another one, and
a pause came after it. -/
inductive Tried (retryable : StoreError → Bool) (operation : Program (Except StoreError α)) :
    List (List Event) → List Event → Except StoreError α → Prop where
  | last {own : List Event} {value : Except StoreError α} (run : operation.Runs own value) :
      Tried retryable operation [own] own value
  | again {own events : List Event} {error : StoreError} {tries : List (List Event)}
      {value : Except StoreError α} (run : operation.Runs own (.error error))
      (worth : retryable error = true) (delay : Duration)
      (rest : Tried retryable operation tries events value) :
      Tried retryable operation (own :: tries) (own ++ .sleep delay :: events) value

theorem exists_tries
    (run : (policy.attempt retryable Program.pause operation retries delay).Runs events value) :
    ∃ tries, Tried retryable operation tries events value ∧ tries.length ≤ retries + 1 ∧
      ∀ error, value = .error error → retryable error = true → tries.length = retries + 1 := by
  induction retries generalizing delay events with
  | zero => exact ⟨[events], .last run, by simp⟩
  | succ retries ih =>
    obtain ⟨own, result, others, rfl, head, tail⟩ := Program.runs_bind.mp run
    cases result with
    | ok a =>
      obtain ⟨rfl, rfl⟩ := Program.runs_pure.mp tail
      exact ⟨[own], by simpa using Tried.last head, by simp, nofun⟩
    | error error =>
      dsimp only at tail
      split at tail
      · next worth =>
        rw [Program.pause_bind, Program.runs_sleep] at tail
        obtain ⟨rest, rfl, again⟩ := tail
        obtain ⟨tries, tried, short, spent⟩ := ih again
        refine ⟨own :: tries, .again head worth delay tried, by simp; omega, ?_⟩
        intro last failed worthLast
        rw [List.length_cons, spent last failed worthLast]
      · next worthless =>
        obtain ⟨rfl, rfl⟩ := Program.runs_pure.mp tail
        refine ⟨[own], by simpa using Tried.last head, by simp, ?_⟩
        rintro last ⟨⟩ worth
        exact absurd worth worthless

theorem Tried.countP_le (tried : Tried retryable operation tries events value) {p : Event → Bool}
    (pauses : ∀ span, p (.sleep span) = false)
    (once : ∀ own result, operation.Runs own result → own.countP p ≤ 1) :
    events.countP p ≤ tries.length := by
  induction tried with
  | last run => exact once _ _ run
  | again run worth delay rest ih =>
    have here := once _ _ run
    simp only [List.countP_append, List.countP_cons, pauses, List.length_cons]
    simp only [Bool.false_eq_true, if_false]
    omega

end RetryPolicy

namespace StatusWriter
variable {w : StatusWriter} {passError : Option String} {events : List Event}
  {result : Except StoreError StatusWrite}

theorem countP_replaceStatus_le (run : (w.attempt passError).Runs events result) :
    events.countP (fun e => e.verb? = some .replaceStatus) ≤ 1 := by
  rcases attempt_cases run with ⟨error, rfl, _⟩ | ⟨read, rfl, _⟩ |
    ⟨read, workload, moment, rfl, _⟩ | ⟨read, workload, moment, answer, rfl, _⟩ <;>
  simp [readings, Event.verb?, Call.verb]

def changes : Except StoreError StatusWrite → Nat
  | .ok .written => 1
  | _ => 0

theorem countP_wrote_attempt (run : (w.attempt passError).Runs events result) :
    events.countP Event.wrote = changes result := by
  rcases attempt_cases run with ⟨error, rfl, ⟨_, rfl⟩ | ⟨_, rfl⟩⟩ | ⟨read, rfl, _, rfl⟩ |
    ⟨read, workload, moment, rfl, _, _, rfl⟩ | ⟨read, workload, moment, answer, rfl, _, _, rfl⟩
  · simp [Event.wrote, changes]
  · simp [Event.wrote, changes]
  · simp [Event.wrote, changes]
  · simp [readings, Event.wrote, changes]
  · cases answer with
    | ok object => simp [readings, Event.wrote, Except.map, changes]
    | error error => simp [readings, Event.wrote, Except.map, changes]

theorem countP_wrote_tried {tries : List (List Event)}
    (tried : RetryPolicy.Tried StoreError.isConflict (w.attempt passError) tries events result) :
    events.countP Event.wrote = changes result := by
  induction tried with
  | last run => exact countP_wrote_attempt run
  | again run worth delay rest ih =>
    have nothing := countP_wrote_attempt run
    rw [List.countP_append, List.countP_cons, nothing, ih]
    simp [Event.wrote, changes]

def noted : Except StoreError StatusWrite → List Event
  | .ok .written => [.measure .statusUpdate]
  | .ok .unchanged => [.measure .statusSkipped]
  | .ok .skipped | .error _ => []

theorem attempted_then_noted (run : (w.run passError).Runs events result) :
    ∃ body, events = body ++ noted result ∧
      (w.policy.run StoreError.isConflict Program.pause (w.attempt passError)).Runs body
        result := by
  obtain ⟨body, outcome, measured, rfl, attempts, tail⟩ := Program.runs_bind.mp run
  have finish : measured = noted outcome ∧ result = outcome := by
    rcases outcome with error | _ | _ | _
    · exact Program.runs_pure.mp tail
    · obtain ⟨rest, rfl, finish⟩ := Program.runs_measure.mp tail
      obtain ⟨rfl, rfl⟩ := Program.runs_pure.mp finish
      exact ⟨rfl, rfl⟩
    · obtain ⟨rest, rfl, finish⟩ := Program.runs_measure.mp tail
      obtain ⟨rfl, rfl⟩ := Program.runs_pure.mp finish
      exact ⟨rfl, rfl⟩
    · exact Program.runs_pure.mp tail
  obtain ⟨rfl, rfl⟩ := finish
  exact ⟨body, rfl, attempts⟩

theorem attempted_then_measured (run : (w.run passError).Runs events result) :
    ∃ body measured, events = body ++ measured ∧ (∀ e ∈ measured, ∃ m, e = .measure m) ∧
      (w.policy.run StoreError.isConflict Program.pause (w.attempt passError)).Runs body
        result := by
  obtain ⟨body, rfl, attempts⟩ := attempted_then_noted run
  refine ⟨body, noted result, rfl, ?_, attempts⟩
  rcases result with error | _ | _ | _ <;> simp [noted]

theorem exists_tries (run : (w.run passError).Runs events result) :
    ∃ tries body measured, events = body ++ measured ∧ (∀ e ∈ measured, ∃ m, e = .measure m) ∧
      RetryPolicy.Tried StoreError.isConflict (w.attempt passError) tries body result ∧
      tries.length ≤ max 1 w.policy.maxAttempts := by
  obtain ⟨body, measured, rfl, quiet, attempts⟩ := attempted_then_measured run
  obtain ⟨tries, tried, short, _⟩ := RetryPolicy.exists_tries attempts
  exact ⟨tries, body, measured, rfl, quiet, tried, by omega⟩

theorem countP_of_measured {measured : List Event} (quiet : ∀ e ∈ measured, ∃ m, e = .measure m)
    {p : Event → Bool} (silent : ∀ m, p (.measure m) = false) : measured.countP p = 0 := by
  rw [List.countP_eq_zero]
  intro e member
  obtain ⟨m, rfl⟩ := quiet e member
  simp [silent m]

theorem countP_wrote (run : (w.run passError).Runs events result) :
    events.countP Event.wrote = changes result := by
  obtain ⟨tries, body, measured, rfl, quiet, tried, _⟩ := exists_tries run
  have measuring := countP_of_measured quiet (p := Event.wrote) fun m => rfl
  rw [List.countP_append, countP_wrote_tried tried, measuring, Nat.add_zero]

theorem countP_replaceStatus_run (run : (w.run passError).Runs events result) :
    events.countP (fun e => e.verb? = some .replaceStatus) ≤ max 1 w.policy.maxAttempts := by
  obtain ⟨tries, body, measured, rfl, quiet, tried, short⟩ := exists_tries run
  have measuring := countP_of_measured quiet (p := fun e => e.verb? = some .replaceStatus)
    fun m => by simp [Event.verb?]
  have attempts := tried.countP_le (p := fun e => e.verb? = some .replaceStatus)
    (fun span => by simp [Event.verb?]) fun own result => countP_replaceStatus_le
  rw [List.countP_append]
  omega

open Holdings in
/-- The move `p` read the object that the move `q` of the same attempt is to replace. -/
structure ReadFor (w : StatusWriter) (passError : Option String) (p : Move) (between : List Move)
    (q : Move) (r : Resource) (read : Object) (workload : Except StoreError Object)
    (moment : Moment) : Prop where
  event : p.event = some (.call (.get w.slot) (.ok read))
  looked : own between = [.call (.get ⟨.daemonSet, w.workload⟩) workload, .clock moment]
  found : p.before.held w.slot = some read
  race : Race p.before between q.before
  live : read.metadata.isDeleting = false
  place : r.slot = w.slot
  given : r = ⟨w.kind, read.withStatus (some
    (Instance.encodeStatus (w.derived passError read workload moment).1))⟩

open Holdings in
theorem exists_readFor (run : (w.run passError).Runs events result) {s s' : Holdings}
    {moves first last : List Move} {q : Move} {r : Resource} {answer : Except StoreError Object}
    (race : Race s moves s') (same : own moves = events) (split : moves = first ++ q :: last)
    (event : q.event = some (.call (.replaceStatus r) answer)) :
    ∃ start p between read workload moment, first = start ++ p :: between ∧
      own first = own start ++ w.readings read workload moment ∧
      w.ReadFor passError p between q r read workload moment := by
  subst split
  have events_eq : events = own first ++ .call (.replaceStatus r) answer :: own last := by
    rw [← same, own, List.filterMap_append, List.filterMap_cons, event]
    rfl
  obtain ⟨earlier, mine, rest, outcome, before, attempt⟩ := attempt_of_call run events_eq
  obtain ⟨read, workload, moment, rfl, rfl, live, _⟩ := attempt_of_write attempt
  obtain ⟨start, p, between, rfl, begun, reading, looked⟩ := exists_move before
  obtain ⟨middle, untilWrite, fromWrite⟩ := race.split
  obtain ⟨_, _, fromRead⟩ := untilWrite.split
  obtain rfl := fromWrite.before_eq
  have reads : p.before.held w.slot = some read ∧ p.after = p.before := by
    have turn := p.turn
    rw [reading] at turn
    exact turn.of_read
  have raced : Race p.before between q.before := by
    cases fromRead with
    | cons _ later =>
      rw [← reads.2]
      exact later
  have key : read.key = w.key := p.before.placed reads.1
  have place : (⟨w.kind, read.withStatus (some
      (Instance.encodeStatus (w.derived passError read workload moment).1))⟩ : Resource).slot =
        w.slot := by
    simp only [Resource.slot, Resource.key, slot, ← key]
    rfl
  exact ⟨start, p, between, read, workload, moment, rfl, begun ▸ before, reading, looked, reads.1,
    raced, live, place, rfl⟩

open Holdings in
theorem stored_of_wrote (run : (w.run passError).Runs events result) {s s' : Holdings}
    {moves first last : List Move} {p : Move} {r : Resource} {answer : Object}
    (race : Race s moves s') (same : own moves = events)
    (split : moves = first ++ p :: last)
    (event : p.event = some (.call (.replaceStatus r) (.ok answer))) :
    ∃ earlier stored workload moment,
      own first = earlier ++ w.readings stored workload moment ∧
      p.before.held w.slot = some stored ∧ stored.metadata.isDeleting = false ∧
      r = ⟨w.kind, stored.withStatus (some
        (Instance.encodeStatus (w.derived passError stored workload moment).1))⟩ := by
  obtain ⟨start, q, between, read, workload, moment, _, before, reads⟩ :=
    exists_readFor run race same split event
  have bound : p.before.Bound w.slot read := reads.race.bound (bound_of_held reads.found)
  have writes : ∃ stored, p.before.held w.slot = some stored ∧ stored.version = read.version := by
    have turn := p.turn
    rw [event] at turn
    obtain ⟨stored, found, current⟩ := turn.of_write
    rw [reads.place] at found
    rw [reads.given] at current
    exact ⟨stored, found, current⟩
  obtain ⟨stored, found, current⟩ := writes
  obtain rfl := bound.only stored found current
  exact ⟨own start, stored, workload, moment, before, found, reads.live, reads.given⟩

open Holdings in
/-- However others interleave their own writes and deletions with those of a status: the store is
changed at most once, another attempt is made only after a conflict, what is replaced is the object
that the attempt has read, and unless the write says that it was made, nothing was changed by it. -/
theorem status_write_loses_no_update (run : (w.run passError).Runs events result) {s s' : Holdings}
    {moves : List Move} (race : Race s moves s') (same : own moves = events) :
    (events.countP Event.wrote ≤ 1 ∧
      events.countP (fun e => e.verb? = some .replaceStatus) ≤ max 1 w.policy.maxAttempts ∧
      ∃ tries body measured, events = body ++ measured ∧ (∀ e ∈ measured, ∃ m, e = .measure m) ∧
        RetryPolicy.Tried StoreError.isConflict (w.attempt passError) tries body result ∧
        tries.length ≤ max 1 w.policy.maxAttempts) ∧
    (∀ first p last r answer, moves = first ++ p :: last →
      p.event = some (.call (.replaceStatus r) (.ok answer)) →
        ∃ earlier stored workload moment,
          own first = earlier ++ w.readings stored workload moment ∧
          p.before.held w.slot = some stored ∧ stored.metadata.isDeleting = false ∧
          r = ⟨w.kind, stored.withStatus (some
            (Instance.encodeStatus (w.derived passError stored workload moment).1))⟩) ∧
    (result ≠ .ok .written → ∀ p ∈ moves, p.event.isSome → p.after = p.before) := by
  have count := countP_wrote run
  refine ⟨⟨?_, countP_replaceStatus_run run, exists_tries run⟩, ?_, ?_⟩
  · rw [count]
    unfold changes
    split <;> omega
  · intro first p last r answer split event
    exact stored_of_wrote run race same split event
  · intro unwritten p member mine
    have none_wrote : events.countP Event.wrote = 0 := by
      rw [count]
      unfold changes
      split
      · exact absurd rfl unwritten
      · rfl
    rw [List.countP_eq_zero] at none_wrote
    obtain ⟨e, event⟩ := Option.isSome_iff_exists.mp mine
    have inOwn : e ∈ own moves := List.mem_filterMap.mpr ⟨p, member, event⟩
    rw [same] at inOwn
    have turn := p.turn
    rw [event] at turn
    exact turn.unchanged (by simpa using none_wrote e inOwn)

end StatusWriter

namespace Holdings

def single (object : Object) (versions : List (Option String))
    (stamped : object.version ∈ versions) : Holdings where
  held slot := if slot = ⟨.nodeAgent, object.key⟩ then some object else none
  seen _ version := version ∈ versions
  placed := by
    intro slot held found
    split at found
    · next same =>
      obtain rfl := Option.some.inj found
      rw [same]
    · cases found
  stamped := by
    intro slot held found
    split at found
    · obtain rfl := Option.some.inj found
      exact stamped
    · cases found

theorem single_renewed {object other : Object} {versions : List (Option String)}
    (stamped : object.version ∈ versions) (new : other.version ∉ versions) (slot : Slot) :
    (single object versions stamped).Renewed
      (single other (other.version :: versions) List.mem_cons_self) slot where
  remembers _ known := List.mem_cons_of_mem _ known
  renews := by
    intro held found
    change (if slot = ⟨.nodeAgent, other.key⟩ then some other else none) = some held at found
    split at found
    · obtain rfl := Option.some.inj found
      exact Or.inr new
    · cases found

end Holdings

namespace StatusWriter

open Holdings

def contested (version : String) (generation : Int) : Object :=
  { metadata :=
      { name := some "telemetry", ns := some "observability", generation := some generation
        resourceVersion := some version } }

def contestedWriter : StatusWriter :=
  { kind := .nodeAgent, key := .namespaced "observability" "telemetry"
    workload := .namespaced "observability" "telemetry-agent" }

def missing : Except StoreError Object := .error (.notFound "DaemonSet not found")

def midnight : Moment := ⟨⟨0, 0⟩, .zero⟩

def contestedWrite (version : String) (generation : Int) : Resource :=
  ⟨.nodeAgent, (contested version generation).withStatus (some (Instance.encodeStatus
    (contestedWriter.derived none (contested version generation) missing midnight).1))⟩

def overtaken : StoreError := .conflict "NodeAgent observability/telemetry was modified"

def contestedEvents : List Event :=
  contestedWriter.readings (contested "1" 1) missing midnight ++
    .call (.replaceStatus (contestedWrite "1" 1)) (.error overtaken) :: .sleep (.ofMillis 10) ::
      (contestedWriter.readings (contested "2" 2) missing midnight ++
        [.call (.replaceStatus (contestedWrite "2" 2)) (.ok (contested "3" 2)),
          .measure .statusUpdate])

theorem contested_runs : (contestedWriter.run none).Runs contestedEvents (.ok .written) :=
  .call _ (.call _ (.clock _ (.call _ (.sleep _ (.call _ (.call _ (.clock _ (.call _
    (.measure _ (.done _))))))))))

theorem exists_contested_race : ∃ s s' moves, Race s moves s' ∧
    own moves = contestedEvents := by
  let first := single (contested "1" 1) [some "1"] List.mem_cons_self
  let second := single (contested "2" 2) [some "2", some "1"] List.mem_cons_self
  let third := single (contested "3" 2) [some "3", some "2", some "1"] List.mem_cons_self
  have edited : ∀ slot, first.Renewed second slot := single_renewed _ (by decide)
  have renewed : ∀ slot, second.Renewed third slot := single_renewed _ (by decide)
  have read : first.Turn (some (.call (.get contestedWriter.slot) (.ok (contested "1" 1))))
      first := .read rfl
  have reread : second.Turn (some (.call (.get contestedWriter.slot) (.ok (contested "2" 2))))
      second := .read rfl
  have wrote : second.Turn
      (some (.call (.replaceStatus (contestedWrite "2" 2)) (.ok (contested "3" 2)))) third :=
    .wrote rfl rfl renewed
  have absent : ∀ s : Holdings, s.Turn
      (some (.call (.get ⟨.daemonSet, contestedWriter.workload⟩) missing)) s := by
    intro s
    exact .failed _ _
  refine ⟨first, third, _, .cons ⟨_, _, _, read⟩ <| .cons ⟨_, _, _, absent first⟩ <|
    .cons ⟨_, _, _, .clock midnight⟩ <| .cons ⟨_, _, _, .others edited⟩ <|
    .cons ⟨_, _, _, .failed (.replaceStatus (contestedWrite "1" 1)) overtaken⟩ <|
    .cons ⟨_, _, _, .sleep (.ofMillis 10)⟩ <| .cons ⟨_, _, _, reread⟩ <|
    .cons ⟨_, _, _, absent second⟩ <| .cons ⟨_, _, _, .clock midnight⟩ <|
    .cons ⟨_, _, _, wrote⟩ <| .cons ⟨_, _, _, .measure .statusUpdate⟩ (.nil third), rfl⟩

theorem contestedWriter_replaces_what_it_reread : ∃ s s' moves first p last answer stored,
    Race s moves s' ∧ own moves = contestedEvents ∧ moves = first ++ p :: last ∧
    p.event = some (.call (.replaceStatus (contestedWrite "2" 2)) (.ok answer)) ∧
    p.before.held contestedWriter.slot = some stored ∧ stored.metadata.isDeleting = false ∧
    contestedEvents.countP Event.wrote ≤ 1 := by
  obtain ⟨s, s', moves, race, same⟩ := exists_contested_race
  have split : own moves =
      (contestedWriter.readings (contested "1" 1) missing midnight ++
        .call (.replaceStatus (contestedWrite "1" 1)) (.error overtaken) ::
          .sleep (.ofMillis 10) :: contestedWriter.readings (contested "2" 2) missing midnight) ++
        .call (.replaceStatus (contestedWrite "2" 2)) (.ok (contested "3" 2)) ::
          [.measure .statusUpdate] := same
  obtain ⟨first, p, last, parts, _, event, _⟩ := exists_move split
  have safe := status_write_loses_no_update contested_runs race same
  obtain ⟨_, stored, _, _, _, found, live, _⟩ := safe.2.1 first p last _ _ parts event
  exact ⟨s, s', moves, first, p, last, _, stored, race, same, parts, event, found, live,
    safe.1.1⟩

end StatusWriter
end AgentOperator
