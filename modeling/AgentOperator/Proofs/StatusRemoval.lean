import AgentOperator.Proofs.StatusRace

/-!
A status write whose instance is removed meanwhile. An attempt that finds the instance gone leaves
it at that. One that finds it, and is to replace it when others have removed it in between, is told
that there is none; this is no conflict, so it is not tried again and the write fails.
-/
namespace AgentOperator

def StoreError.IsNotFound (error : StoreError) : Prop := ∃ text, error = .notFound text

namespace RetryPolicy
variable {α : Type} {retryable : StoreError → Bool} {operation : Program (Except StoreError α)}
  {events : List Event} {value : Except StoreError α} {tries : List (List Event)}

theorem Tried.exists_last (tried : Tried retryable operation tries events value) :
    ∃ before own, events = before ++ own ∧ operation.Runs own value := by
  induction tried with
  | @last own value run => exact ⟨[], own, rfl, run⟩
  | @again own events error tries value run worth delay rest ih =>
    obtain ⟨before, last, rfl, runs⟩ := ih
    exact ⟨own ++ .sleep delay :: before, last, by simp, runs⟩

end RetryPolicy

namespace Holdings

/-- A call about the slot fails only for what the slot holds: nothing, or another version. -/
def Move.Honest (p : Move) (slot : Slot) : Prop :=
  match p.event with
  | some (.call (.get asked) (.error error)) =>
    asked = slot → p.before.held slot = none ∧ error.IsNotFound
  | some (.call (.replaceStatus r) (.error error)) => r.slot = slot →
    p.before.held slot = none ∧ error.IsNotFound ∨
      (∃ stored, p.before.held slot = some stored ∧ stored.version ≠ r.object.version) ∧
        error.isConflict = true
  | _ => True

theorem Move.Honest.of_get {p : Move} {slot : Slot} {error : StoreError} (honest : p.Honest slot)
    (event : p.event = some (.call (.get slot) (.error error))) :
    p.before.held slot = none ∧ error.IsNotFound := by
  rw [Move.Honest, event] at honest
  exact honest rfl

theorem Move.Honest.of_replaceStatus {p : Move} {slot : Slot} {r : Resource} {error : StoreError}
    (honest : p.Honest slot) (event : p.event = some (.call (.replaceStatus r) (.error error)))
    (place : r.slot = slot) :
    p.before.held slot = none ∧ error.IsNotFound ∨
      (∃ stored, p.before.held slot = some stored ∧ stored.version ≠ r.object.version) ∧
        error.isConflict = true := by
  rw [Move.Honest, event] at honest
  exact honest place

variable {s s' : Holdings} {moves : List Move} {slot : Slot} {e : Event}

theorem exists_move_of_mem (member : e ∈ own moves) :
    ∃ first p last, moves = first ++ p :: last ∧ p.event = some e := by
  obtain ⟨p, here, event⟩ := List.mem_filterMap.mp member
  obtain ⟨first, last, rfl⟩ := List.append_of_mem here
  exact ⟨first, p, last, rfl, event⟩

theorem Race.exists_removal (race : Race s moves s') (there : (s.held slot).isSome)
    (gone : s'.held slot = none) :
    ∃ m ∈ moves, (m.before.held slot).isSome ∧ m.after.held slot = none := by
  induction race with
  | nil s =>
    rw [gone] at there
    cases there
  | cons p later ih =>
    cases left : p.after.held slot with
    | none => exact ⟨p, List.mem_cons_self, there, left⟩
    | some object =>
      obtain ⟨m, member, removed⟩ := ih (by rw [left]; rfl) gone
      exact ⟨m, List.mem_cons_of_mem _ member, removed⟩

theorem Move.held_of_read {p : Move} {object : Object}
    (event : p.event = some (.call (.get slot) (.ok object))) :
    p.before.held slot = some object := by
  have turn := p.turn
  rw [event] at turn
  exact turn.of_read.1

theorem others_of_removal {m : Move} (member : m ∈ moves)
    (idle : ∀ e ∈ own moves, e.wrote = false) (there : (m.before.held slot).isSome)
    (gone : m.after.held slot = none) : m.event = none := by
  cases event : m.event with
  | none => rfl
  | some e =>
    have mine : e ∈ own moves := List.mem_filterMap.mpr ⟨m, member, event⟩
    have turn := m.turn
    rw [event] at turn
    rw [← turn.unchanged (idle e mine), gone] at there
    cases there

end Holdings

namespace StatusWriter
variable {w : StatusWriter} {passError : Option String} {events : List Event}
  {result : Except StoreError StatusWrite} {tries : List (List Event)}

/-! ### What the events tell -/

def ReadsHonestly (w : StatusWriter) (events : List Event) : Prop :=
  ∀ error, .call (.get w.slot) (.error error) ∈ events → error.IsNotFound

theorem ReadsHonestly.sublist {others : List Event} (honest : w.ReadsHonestly events)
    (part : others ⊆ events) : w.ReadsHonestly others :=
  fun error member => honest error (part member)

theorem attempt_of_error {error : StoreError}
    (run : (w.attempt passError).Runs events (.error error)) (honest : w.ReadsHonestly events) :
    ∃ read workload moment r, events = w.readings read workload moment ++
      [.call (.replaceStatus r) (.error error)] := by
  rcases attempt_cases run with ⟨met, rfl, ⟨_, failed⟩ | ⟨other, failed⟩⟩ | ⟨read, _, _, failed⟩ |
    ⟨read, workload, moment, _, _, _, failed⟩ |
    ⟨read, workload, moment, answer, rfl, _, _, failed⟩
  · cases failed
  · obtain ⟨text, same⟩ := honest met (by simp)
    exact absurd same (other text)
  · cases failed
  · cases failed
  · cases answer with
    | ok object => cases failed
    | error met =>
      cases failed
      exact ⟨read, workload, moment, _, rfl⟩

theorem attempt_of_refusal {r : Resource} {error : StoreError}
    (run : (w.attempt passError).Runs events result)
    (member : .call (.replaceStatus r) (.error error) ∈ events) : result = .error error := by
  obtain ⟨before, after, rfl⟩ := List.append_of_mem member
  obtain ⟨_, _, _, _, _, _, ended⟩ := attempt_of_write run
  exact ended

theorem notFound_iff_of_tried
    (tried : RetryPolicy.Tried StoreError.isConflict (w.attempt passError) tries events result)
    (honest : w.ReadsHonestly events) :
    (∃ error, result = .error error ∧ error.IsNotFound) ↔
      ∃ r error, .call (.replaceStatus r) (.error error) ∈ events ∧ error.IsNotFound := by
  constructor
  · rintro ⟨error, rfl, missing⟩
    obtain ⟨before, last, rfl, run⟩ := tried.exists_last
    obtain ⟨read, workload, moment, r, rfl⟩ :=
      attempt_of_error run (honest.sublist (List.subset_append_right _ _))
    exact ⟨r, error, by simp, missing⟩
  · rintro ⟨r, error, member, missing⟩
    refine ⟨error, ?_, missing⟩
    clear honest
    induction tried with
    | last run => exact attempt_of_refusal run member
    | again run worth delay rest ih =>
      rcases List.mem_append.mp member with here | later
      · -- this attempt ended in a conflict, not so
        cases attempt_of_refusal run here
        obtain ⟨text, rfl⟩ := missing
        cases worth
      · exact ih (by simpa using later)

theorem countP_of_failed {error : StoreError}
    (tried : RetryPolicy.Tried StoreError.isConflict (w.attempt passError) tries events result)
    (honest : w.ReadsHonestly events) (failed : result = .error error) :
    events.countP (fun e => e.verb? = some .replaceStatus) = tries.length := by
  induction tried with
  | last run =>
    subst failed
    obtain ⟨read, workload, moment, r, rfl⟩ := attempt_of_error run honest
    simp [readings, Event.verb?, Call.verb]
  | again run worth delay rest ih =>
    obtain ⟨read, workload, moment, r, rfl⟩ :=
      attempt_of_error run (honest.sublist (List.subset_append_left _ _))
    have others := ih (honest.sublist fun e member => by simp [member]) failed
    simp only [List.countP_append, List.countP_cons, others, List.length_cons]
    simp [readings, Event.verb?, Call.verb]
    omega

/-! ### Among the moves of others -/

open Holdings

section
variable {s s' : Holdings} {moves first last : List Move} {q : Move} {r : Resource}
  {answer : Except StoreError Object}

/-- Others removed the instance after an attempt had read it, and before that attempt was to replace
it. -/
def RemovedBehind (w : StatusWriter) (moves : List Move) : Prop :=
  ∃ start p between q last read workload moment r answer,
    moves = start ++ p :: between ++ q :: last ∧
    p.event = some (.call (.get w.slot) (.ok read)) ∧
    own between = [.call (.get ⟨.daemonSet, w.workload⟩) workload, .clock moment] ∧
    q.event = some (.call (.replaceStatus r) answer) ∧
    (∃ m ∈ between, m.event = none ∧ (m.before.held w.slot).isSome ∧
      m.after.held w.slot = none) ∧
    q.before.held w.slot = none

theorem removedBehind_of_gone (run : (w.run passError).Runs events result)
    (race : Race s moves s') (same : own moves = events) (split : moves = first ++ q :: last)
    (event : q.event = some (.call (.replaceStatus r) answer))
    (gone : q.before.held w.slot = none) : w.RemovedBehind moves := by
  obtain ⟨start, p, between, read, workload, moment, rfl, _, reads⟩ :=
    exists_readFor run race same split event
  obtain ⟨m, member, there, left⟩ := reads.race.exists_removal (by rw [reads.found]; rfl) gone
  have byOthers : m.event = none := by
    refine others_of_removal member (fun e mine => ?_) there left
    rw [reads.looked] at mine
    simp only [List.mem_cons, List.not_mem_nil, or_false] at mine
    rcases mine with rfl | rfl <;> rfl
  exact ⟨start, p, between, q, last, read, workload, moment, r, answer, split, reads.event,
    reads.looked, event, ⟨m, member, byOthers, there, left⟩, gone⟩

theorem readsHonestly (same : own moves = events) (honest : ∀ p ∈ moves, p.Honest w.slot) :
    w.ReadsHonestly events := by
  intro error member
  rw [← same] at member
  obtain ⟨p, here, event⟩ := List.mem_filterMap.mp member
  exact ((honest p here).of_get event).2

theorem answer_cases (run : (w.run passError).Runs events result) (race : Race s moves s')
    (same : own moves = events) (honest : ∀ p ∈ moves, p.Honest w.slot)
    (split : moves = first ++ q :: last)
    (event : q.event = some (.call (.replaceStatus r) answer)) :
    q.before.held w.slot = none ∧ (∃ error, answer = .error error ∧ error.IsNotFound) ∨
      (q.before.held w.slot).isSome ∧ ∀ error, answer = .error error → error.isConflict = true := by
  obtain ⟨_, _, _, _, _, _, _, _, reads⟩ := exists_readFor run race same split event
  cases answer with
  | ok object =>
    have turn := q.turn
    rw [event] at turn
    obtain ⟨stored, found, _⟩ := turn.of_write
    rw [reads.place] at found
    exact Or.inr ⟨by rw [found]; rfl, nofun⟩
  | error error =>
    have here : q ∈ moves := by simp [split]
    rcases (honest q here).of_replaceStatus event reads.place with
      ⟨gone, missing⟩ | ⟨⟨stored, found, _⟩, conflict⟩
    · exact Or.inl ⟨gone, error, rfl, missing⟩
    · refine Or.inr ⟨by rw [found]; rfl, ?_⟩
      rintro _ ⟨⟩
      exact conflict

theorem refusal_iff_removedBehind (run : (w.run passError).Runs events result)
    (race : Race s moves s') (same : own moves = events) (honest : ∀ p ∈ moves, p.Honest w.slot) :
    (∃ r error, .call (.replaceStatus r) (.error error) ∈ events ∧ error.IsNotFound) ↔
      w.RemovedBehind moves := by
  constructor
  · rintro ⟨r, error, member, missing⟩
    rw [← same] at member
    obtain ⟨first, q, last, split, event⟩ := exists_move_of_mem member
    rcases answer_cases run race same honest split event with ⟨gone, _⟩ | ⟨_, conflict⟩
    · exact removedBehind_of_gone run race same split event gone
    · obtain ⟨text, rfl⟩ := missing
      cases conflict _ rfl
  · rintro ⟨start, p, between, q, last, read, workload, moment, r, answer, split, _, _, event, _,
      gone⟩
    rcases answer_cases run race same honest split event with ⟨_, error, rfl, missing⟩ | ⟨there, _⟩
    · refine ⟨r, error, ?_, missing⟩
      rw [← same]
      exact List.mem_filterMap.mpr ⟨q, by simp [split], event⟩
    · rw [gone] at there
      cases there

end

inductive EndsWell (w : StatusWriter) (moves : List Move) :
    Except StoreError StatusWrite → Prop where
  /-- An attempt found the instance gone or going. -/
  | skipped {p : Move} {answer : Except StoreError Object} (member : p ∈ moves)
      (looked : p.event = some (.call (.get w.slot) answer))
      (leaving : ∀ object, p.before.held w.slot = some object → object.metadata.isDeleting = true) :
      EndsWell w moves (.ok .skipped)
  /-- An attempt found the instance there and its conditions as they should be. -/
  | unchanged {p : Move} {read : Object} (member : p ∈ moves)
      (looked : p.event = some (.call (.get w.slot) (.ok read)))
      (found : p.before.held w.slot = some read) (live : read.metadata.isDeleting = false) :
      EndsWell w moves (.ok .unchanged)
  | written {p : Move} {r : Resource} {answer : Object} (member : p ∈ moves)
      (wrote : p.event = some (.call (.replaceStatus r) (.ok answer))) :
      EndsWell w moves (.ok .written)
  /-- Every attempt that is allowed was overtaken by another writer. -/
  | exhausted {error : StoreError} (conflict : error.isConflict = true)
      (spent : (own moves).countP (fun e => e.verb? = some .replaceStatus) =
        max 1 w.policy.maxAttempts) : EndsWell w moves (.error error)

theorem endsWell_of_attempt {moves : List Move} {write : StatusWrite}
    (run : (w.attempt passError).Runs events (.ok write))
    (made : ∀ e ∈ events, ∃ p ∈ moves, p.event = some e)
    (honest : ∀ p ∈ moves, p.Honest w.slot) : w.EndsWell moves (.ok write) := by
  rcases attempt_cases run with ⟨error, rfl, ended⟩ | ⟨read, rfl, deleting, ended⟩ |
    ⟨read, workload, moment, rfl, live, _, ended⟩ |
    ⟨read, workload, moment, answer, rfl, _, _, ended⟩
  · obtain ⟨p, member, event⟩ := made (.call (.get w.slot) (.error error)) (by simp)
    obtain ⟨gone, text, rfl⟩ := (honest p member).of_get event
    rcases ended with ⟨_, ended⟩ | ⟨_, ended⟩
    · cases ended
      refine .skipped member event fun object here => ?_
      rw [gone] at here
      cases here
    · cases ended
  · cases ended
    obtain ⟨p, member, event⟩ := made (.call (.get w.slot) (.ok read)) (by simp)
    have found := p.held_of_read event
    refine .skipped member event fun object here => ?_
    rw [found] at here
    rwa [← Option.some.inj here]
  · cases ended
    obtain ⟨p, member, event⟩ := made (.call (.get w.slot) (.ok read)) (by simp [readings])
    exact .unchanged member event (p.held_of_read event) live
  · cases answer with
    | error error => cases ended
    | ok object =>
      cases ended
      obtain ⟨p, member, event⟩ := made _ (List.mem_append_right _ List.mem_cons_self)
      exact .written member event

/-- Whatever others do while a status is written, and if the store fails no call about the instance
but for its absence or a version that is not current: the write fails for want of the instance
exactly if others remove it between an attempt's look at it and that attempt's replacement. If they
do not it is skipped, unchanged, written, or overtaken as often as it may be tried. -/
theorem notFound_iff_removedBehind (run : (w.run passError).Runs events result)
    {s s' : Holdings} {moves : List Move} (race : Race s moves s') (same : own moves = events)
    (honest : ∀ p ∈ moves, p.Honest w.slot) :
    ((∃ error, result = .error error ∧ error.IsNotFound) ↔ w.RemovedBehind moves) ∧
      (¬ w.RemovedBehind moves → w.EndsWell moves result) := by
  obtain ⟨body, parts, attempts⟩ := attempted_then_noted run
  obtain ⟨tries, tried, _, spent⟩ := RetryPolicy.exists_tries attempts
  have inEvents : body ⊆ events := by
    rw [parts]
    exact List.subset_append_left _ _
  have reads : w.ReadsHonestly body := (readsHonestly same honest).sublist inEvents
  have refusals : (∃ r error, .call (.replaceStatus r) (.error error) ∈ body ∧ error.IsNotFound) ↔
      ∃ r error, .call (.replaceStatus r) (.error error) ∈ events ∧ error.IsNotFound := by
    -- after the attempts nothing is called
    have silent (r : Resource) (error : StoreError) :
        Event.call (.replaceStatus r) (.error error) ∉ noted result := by
      rcases result with failed | _ | _ | _ <;> simp [noted]
    simp [parts, silent]
  have decided : (∃ error, result = .error error ∧ error.IsNotFound) ↔ w.RemovedBehind moves := by
    rw [notFound_iff_of_tried tried reads, refusals]
    exact refusal_iff_removedBehind run race same honest
  refine ⟨decided, fun none_removed => ?_⟩
  obtain ⟨before, attempt, whole, last⟩ := tried.exists_last
  have inBody : attempt ⊆ body := by
    rw [whole]
    exact List.subset_append_right _ _
  cases result with
  | ok write =>
    refine endsWell_of_attempt last (fun e member => List.mem_filterMap.mp ?_) honest
    rw [← own, same]
    exact inEvents (inBody member)
  | error error =>
    obtain ⟨_, _, _, r, refused⟩ := attempt_of_error last (reads.sublist inBody)
    have member : .call (.replaceStatus r) (.error error) ∈ own moves := by
      rw [same]
      exact inEvents (inBody (by simp [refused]))
    obtain ⟨_, q, _, split, event⟩ := exists_move_of_mem member
    rcases answer_cases run race same honest split event with ⟨_, _, ⟨⟩, missing⟩ | ⟨_, conflict⟩
    · exact absurd (decided.mp ⟨error, rfl, missing⟩) none_removed
    · refine .exhausted (conflict error rfl) ?_
      have each := countP_of_failed tried reads rfl
      have all := spent error rfl (conflict error rfl)
      rw [same, parts, noted, List.append_nil, each, all]
      omega

/-! ### An agent that is removed -/

def emptied (versions : List (Option String)) : Holdings where
  held _ := none
  seen _ version := version ∈ versions
  placed := nofun
  stamped := nofun

theorem emptied_renewed {object : Object} {versions : List (Option String)}
    (stamped : object.version ∈ versions) (slot : Slot) :
    (single object versions stamped).Renewed (emptied versions) slot where
  remembers _ known := known
  renews := by
    intro object found
    cases found

def noAgent : StoreError := .notFound "NodeAgent observability/telemetry not found"

def abandonedEvents : List Event :=
  contestedWriter.readings (contested "1" 1) missing midnight ++
    [.call (.replaceStatus (contestedWrite "1" 1)) (.error overtaken), .sleep (.ofMillis 10),
      .call (.get contestedWriter.slot) (.error noAgent)]

theorem abandoned_runs : (contestedWriter.run none).Runs abandonedEvents (.ok .skipped) :=
  .call _ (.call _ (.clock _ (.call _ (.sleep _ (.call _ (.done _))))))

theorem exists_abandoned_race : ∃ s s' moves, Race s moves s' ∧ own moves = abandonedEvents ∧
    ∀ p ∈ moves, p.Honest contestedWriter.slot := by
  let first := single (contested "1" 1) [some "1"] List.mem_cons_self
  let second := single (contested "2" 2) [some "2", some "1"] List.mem_cons_self
  let third := emptied [some "2", some "1"]
  have edited : ∀ slot, first.Renewed second slot := single_renewed _ (by decide)
  have removed : ∀ slot, second.Renewed third slot := emptied_renewed _
  have read : first.Turn (some (.call (.get contestedWriter.slot) (.ok (contested "1" 1))))
      first := .read rfl
  have absent : first.Turn
      (some (.call (.get ⟨.daemonSet, contestedWriter.workload⟩) missing)) first := .failed _ _
  refine ⟨first, third, _, .cons ⟨_, _, _, read⟩ <| .cons ⟨_, _, _, absent⟩ <|
    .cons ⟨_, _, _, .clock midnight⟩ <| .cons ⟨_, _, _, .others edited⟩ <|
    .cons ⟨_, _, _, .failed (.replaceStatus (contestedWrite "1" 1)) overtaken⟩ <|
    .cons ⟨_, _, _, .sleep (.ofMillis 10)⟩ <| .cons ⟨_, _, _, .others removed⟩ <|
    .cons ⟨_, _, _, .failed (.get contestedWriter.slot) noAgent⟩ (.nil third), rfl, ?_⟩
  have elsewhere : (⟨.daemonSet, contestedWriter.workload⟩ : Slot) ≠ contestedWriter.slot :=
    fun same => absurd (congrArg Slot.kind same) (by decide)
  simp only [List.forall_mem_cons]
  refine ⟨trivial, fun same => absurd same elsewhere, trivial, trivial, fun _ => Or.inr ⟨?_, rfl⟩,
    trivial, trivial, fun _ => ⟨rfl, _, rfl⟩, List.forall_mem_nil _⟩
  exact ⟨contested "2" 2, rfl, by decide⟩

/-- The second attempt finds the agent gone. -/
theorem contestedWriter_skips_removed : ∃ s s' moves, Race s moves s' ∧
    own moves = abandonedEvents ∧ (∀ p ∈ moves, p.Honest contestedWriter.slot) ∧
    ¬ contestedWriter.RemovedBehind moves ∧ contestedWriter.EndsWell moves (.ok .skipped) := by
  obtain ⟨s, s', moves, race, same, honest⟩ := exists_abandoned_race
  obtain ⟨decided, otherwise⟩ := notFound_iff_removedBehind abandoned_runs race same honest
  have kept : ¬ contestedWriter.RemovedBehind moves := by
    rw [← decided]
    nofun
  exact ⟨s, s', moves, race, same, honest, kept, otherwise kept⟩

def bereftEvents : List Event :=
  contestedWriter.readings (contested "1" 1) missing midnight ++
    [.call (.replaceStatus (contestedWrite "1" 1)) (.error noAgent)]

/-- The write fails although nothing but the removal has happened. -/
theorem contestedWriter_fails_behind_removal :
    (contestedWriter.run none).Runs bereftEvents (.error noAgent) ∧ noAgent.IsNotFound ∧
      ∃ s s' moves, Race s moves s' ∧ own moves = bereftEvents ∧
        (∀ p ∈ moves, p.Honest contestedWriter.slot) ∧ s'.held contestedWriter.slot = none := by
  have run : (contestedWriter.run none).Runs bereftEvents (.error noAgent) :=
    .call _ (.call _ (.clock _ (.call _ (.done _))))
  let first := single (contested "1" 1) [some "1"] List.mem_cons_self
  let second := emptied [some "1"]
  have removed : ∀ slot, first.Renewed second slot := emptied_renewed _
  have read : first.Turn (some (.call (.get contestedWriter.slot) (.ok (contested "1" 1))))
      first := .read rfl
  have absent : first.Turn
      (some (.call (.get ⟨.daemonSet, contestedWriter.workload⟩) missing)) first := .failed _ _
  have elsewhere : (⟨.daemonSet, contestedWriter.workload⟩ : Slot) ≠ contestedWriter.slot :=
    fun same => absurd (congrArg Slot.kind same) (by decide)
  refine ⟨run, ⟨_, rfl⟩, first, second, _, .cons ⟨_, _, _, read⟩ <| .cons ⟨_, _, _, absent⟩ <|
    .cons ⟨_, _, _, .clock midnight⟩ <| .cons ⟨_, _, _, .others removed⟩ <|
    .cons ⟨_, _, _, .failed (.replaceStatus (contestedWrite "1" 1)) noAgent⟩ (.nil second), rfl,
    ?_, rfl⟩
  simp only [List.forall_mem_cons]
  exact ⟨trivial, fun same => absurd same elsewhere, trivial, trivial,
    fun _ => Or.inl ⟨rfl, _, rfl⟩, List.forall_mem_nil _⟩

end StatusWriter
end AgentOperator
