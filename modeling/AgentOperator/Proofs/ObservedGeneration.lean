import AgentOperator.Proofs.CleanupMarker
import AgentOperator.Proofs.DerivedConditions

/-!
The generation that a written condition names. The steps of a pass are built from the copy that it
was given, the conditions from the object that the last attempt to write them has read. Both name
one generation exactly if nobody changed the specification in between.
-/
namespace AgentOperator

namespace StatusWriter
variable {w : StatusWriter} {passError : Option String} {events : List Event}
  {result : Except StoreError StatusWrite}

def readings (w : StatusWriter) (read : Object) (workload : Except StoreError Object)
    (moment : Moment) : List Event :=
  [.call (.get w.slot) (.ok read), .call (.get ⟨.daemonSet, w.workload⟩) workload, .clock moment]

def derived (w : StatusWriter) (passError : Option String) (read : Object)
    (workload : Except StoreError Object) (moment : Moment) : List Condition × Bool :=
  Condition.derive (storedConditions read) read.metadata.generation (w.observe workload) passError
    moment.wall.render

theorem attempt_cases (run : (w.attempt passError).Runs events result) :
    (∃ error, events = [.call (.get w.slot) (.error error)] ∧
        ((∃ text, error = .notFound text) ∧ result = .ok .skipped ∨
          (∀ text, error ≠ .notFound text) ∧ result = .error error)) ∨
      (∃ read, events = [.call (.get w.slot) (.ok read)] ∧ read.metadata.isDeleting = true ∧
        result = .ok .skipped) ∨
      (∃ read workload moment, events = w.readings read workload moment ∧
        read.metadata.isDeleting = false ∧
        (w.derived passError read workload moment).2 = false ∧ result = .ok .unchanged) ∨
      ∃ read workload moment answer,
        events = w.readings read workload moment ++
          [.call (.replaceStatus ⟨w.kind, read.withStatus (some
            (Instance.encodeStatus (w.derived passError read workload moment).1))⟩) answer] ∧
        read.metadata.isDeleting = false ∧
        (w.derived passError read workload moment).2 = true ∧
        result = answer.map fun _ => .written := by
  unfold attempt at run
  simp only [Program.get_bind, Program.runs_call] at run
  obtain ⟨answer, rest, rfl, run⟩ := run
  cases answer with
  | error error =>
    left
    cases error with
    | notFound text =>
      obtain ⟨rfl, rfl⟩ := Program.runs_pure.mp run
      exact ⟨_, rfl, Or.inl ⟨⟨text, rfl⟩, rfl⟩⟩
    | _ =>
      obtain ⟨rfl, rfl⟩ := Program.runs_pure.mp run
      exact ⟨_, rfl, Or.inr ⟨by simp, rfl⟩⟩
  | ok read =>
    right
    dsimp only at run
    cases deleting : read.metadata.isDeleting with
    | true =>
      rw [if_pos deleting] at run
      obtain ⟨rfl, rfl⟩ := Program.runs_pure.mp run
      exact Or.inl ⟨read, rfl, deleting, rfl⟩
    | false =>
      right
      rw [if_neg (by simp [deleting])] at run
      simp only [Program.now_bind, Program.runs_call, Program.runs_clock] at run
      obtain ⟨workload, rest, rfl, moment, rest, rfl, run⟩ := run
      cases changed : (w.derived passError read workload moment).2 with
      | false =>
        rw [if_pos (by simpa [derived] using changed)] at run
        obtain ⟨rfl, rfl⟩ := Program.runs_pure.mp run
        exact Or.inl ⟨read, workload, moment, rfl, deleting, changed, rfl⟩
      | true =>
        rw [if_neg (by simpa [derived] using changed)] at run
        simp only [Program.replaceStatus_bind, Program.runs_call] at run
        obtain ⟨answer, rest, rfl, run⟩ := run
        have finish : rest = [] ∧ result = answer.map fun _ => .written := by
          cases answer <;> exact Program.runs_pure.mp run
        obtain ⟨rfl, ended⟩ := finish
        exact Or.inr ⟨read, workload, moment, answer, rfl, deleting, changed, ended⟩

theorem attempt_of_write {before after : List Event} {written : Resource}
    {answer : Except StoreError Object}
    (run : (w.attempt passError).Runs (before ++ .call (.replaceStatus written) answer :: after)
      result) :
    ∃ read workload moment, before = w.readings read workload moment ∧
      written = ⟨w.kind, read.withStatus (some
        (Instance.encodeStatus (w.derived passError read workload moment).1))⟩ ∧
      read.metadata.isDeleting = false ∧ result = answer.map fun _ => .written := by
  have member : Event.call (.replaceStatus written) answer ∈
      before ++ .call (.replaceStatus written) answer :: after := by simp
  rcases attempt_cases run with ⟨error, same, _⟩ | ⟨read, same, _⟩ |
    ⟨read, workload, moment, same, _⟩ | ⟨read, workload, moment, reply, same, live, _, ended⟩
  · simp [same] at member
  · simp [same] at member
  · simp [same, readings] at member
  · obtain ⟨rfl, write⟩ := Event.eq_last same (by simp [readings])
    cases write
    exact ⟨read, workload, moment, rfl, rfl, live, ended⟩

theorem readings_of_write {before after : List Event} {written : Resource}
    {answer : Except StoreError Object}
    (run : (w.attempt passError).Runs (before ++ .call (.replaceStatus written) answer :: after)
      result) :
    ∃ read workload moment, before = w.readings read workload moment ∧
      written = ⟨w.kind, read.withStatus (some
        (Instance.encodeStatus (w.derived passError read workload moment).1))⟩ := by
  obtain ⟨read, workload, moment, readings, same, _⟩ := attempt_of_write run
  exact ⟨read, workload, moment, readings, same⟩

theorem attempt_of_call (run : (w.run passError).Runs events result)
    {before after : List Event} {c : Call} {answer : c.Answer}
    (split : events = before ++ .call c answer :: after) :
    ∃ earlier own rest outcome, before = earlier ++ own ∧
      (w.attempt passError).Runs (own ++ .call c answer :: rest) outcome := by
  obtain ⟨attempts, outcome, last, rfl, head, tail⟩ := Program.runs_bind.mp run
  rcases Event.split_append split with ⟨middle, rfl⟩ | ⟨middle, rfl, rfl⟩
  · obtain ⟨earlier, own, rest, result, rfl, attempt⟩ := RetryPolicy.attempt_of_call head rfl
    exact ⟨earlier, own, rest, result, rfl, attempt⟩
  · -- what follows the attempts is only measured
    have member : Event.call c answer ∈ middle ++ .call c answer :: after := by simp
    refine absurd member (tail.not_mem_of_silent ?_)
    dsimp only
    split <;> trivial

end StatusWriter

namespace Instance
variable {i : Instance} {settings : Settings} {policy : RetryPolicy} {events : List Event}
  {outcome : Outcome}

theorem verb_of_step {step : Step} {c : Call} (member : step ∈ i.steps settings)
    (call : step.mayCall c) : c.verb ≠ .replaceStatus := by
  rcases List.mem_append.mp member with own | last
  · exact (verb_of_own own call).2
  · obtain rfl := List.mem_singleton.mp last
    rcases call with rfl | ⟨object, rfl⟩ <;> simp [Call.verb]

theorem status_of_write (run : (i.pass settings policy).Runs events outcome)
    {before after : List Event} {written : Resource} {answer : Except StoreError Object}
    (split : events = before ++ .call (.replaceStatus written) answer :: after) :
    ∃ body reached status result, before = body ++ status ∧
      (Pass.run settings.requeueDelay ((i.steps settings).map Step.run)).Runs body reached ∧
      ((i.statusWriter settings policy).run (reached.error.map StepError.message)).Runs
        (status ++ .call (.replaceStatus written) answer :: after) result := by
  unfold pass at run
  split at run
  · obtain ⟨rfl, _⟩ := Program.runs_pure.mp run
    simp at split
  · obtain ⟨body, reached, rest, rfl, steps, tail⟩ := Program.runs_bind.mp run
    obtain ⟨status, result, nothing, rfl, writing, finish⟩ := Program.runs_bind.mp tail
    obtain ⟨rfl, _⟩ := Program.runs_pure.mp finish
    rw [List.append_nil] at split
    rcases Event.split_append split with ⟨middle, rfl⟩ | ⟨middle, rfl, rfl⟩
    · -- no step writes a status
      have only : (Pass.run settings.requeueDelay ((i.steps settings).map Step.run)).Only
          (·.verb ≠ .replaceStatus) := by
        refine Pass.only_runFrom ?_
        intro program inSteps
        obtain ⟨step, member, rfl⟩ := List.mem_map.mp inSteps
        exact step.only_run.mono fun c call => verb_of_step member call
      have member : Event.call (.replaceStatus written) answer ∈
          before ++ .call (.replaceStatus written) answer :: middle := by simp
      exact absurd rfl (steps.sort_of_mem only member)
    · exact ⟨body, reached, middle, result, rfl, steps, writing⟩

theorem readings_of_status_write (run : (i.pass settings policy).Runs events outcome)
    {before after : List Event} {written : Resource} {answer : Except StoreError Object}
    (split : events = before ++ .call (.replaceStatus written) answer :: after) :
    ∃ earlier passError read workload moment,
      before = earlier ++ (i.statusWriter settings policy).readings read workload moment ∧
      written = ⟨i.kind, read.withStatus (some (encodeStatus
        ((i.statusWriter settings policy).derived passError read workload moment).1))⟩ := by
  obtain ⟨body, reached, status, result, rfl, _, writing⟩ := status_of_write run split
  obtain ⟨earlier, attempted, rest, outcome, rfl, attempt⟩ :=
    StatusWriter.attempt_of_call writing rfl
  obtain ⟨read, workload, moment, rfl, rfl⟩ := StatusWriter.readings_of_write attempt
  exact ⟨body ++ earlier, _, read, workload, moment, by simp, rfl⟩

/-- The conditions that a pass writes name the generation of the object that it has just read, and
so the generation of the copy that its steps were built from exactly if the two are the same. -/
theorem observedGeneration_iff (run : (i.pass settings policy).Runs events outcome)
    {before after : List Event} {written : Resource} {answer : Except StoreError Object}
    (write : events = before ++ .call (.replaceStatus written) answer :: after) :
    ∃ earlier read workload moment conditions,
      before = earlier ++ (i.statusWriter settings policy).readings read workload moment ∧
      written = ⟨i.kind, read.withStatus (some (encodeStatus conditions))⟩ ∧
      conditions.map (·.type) = Condition.required ∧
      (∀ c ∈ conditions, c.observedGeneration = read.metadata.generation) ∧
      ((∀ c ∈ conditions, c.observedGeneration = i.metadata.generation) ↔
        read.metadata.generation = i.metadata.generation) := by
  obtain ⟨earlier, passError, read, workload, moment, rfl, rfl⟩ :=
    readings_of_status_write run write
  have types := Condition.types_derive (StatusWriter.storedConditions read)
    read.metadata.generation ((i.statusWriter settings policy).observe workload) passError
    moment.wall.render
  refine ⟨earlier, read, workload, moment, _, rfl, rfl, types,
    fun c member => Condition.observedGeneration_of_mem_derive member, ?_, ?_⟩
  · -- two conditions are written, so there is one to read the generation off
    intro same
    have required : Conventions.reconciledType ∈ Condition.required := List.mem_cons_self
    rw [← types] at required
    obtain ⟨c, member, _⟩ := List.mem_map.mp required
    rw [← same c member]
    exact (Condition.observedGeneration_of_mem_derive member).symm
  · intro same c member
    rw [← same]
    exact Condition.observedGeneration_of_mem_derive member

def agentOf (generation : Int) : Object :=
  { metadata :=
      { name := some "telemetry", ns := some "observability", uid := some "agent-uid"
        generation := some generation, finalizers := some [Conventions.cleanupMarker] } }

def firstAgent : Instance := { metadata := (agentOf 1).metadata, spec := .agent {} }

def firstWriter : StatusWriter := firstAgent.statusWriter {} {}

def noWorkload : Except StoreError Object := .error (.notFound "DaemonSet not found")

def conditionsOf (generation : Int) : List Condition :=
  (firstWriter.derived none (agentOf generation) noWorkload ⟨⟨0, 0⟩, .zero⟩).1

theorem firstAgent_steps : ∃ body,
    (Pass.run (Settings.requeueDelay {}) ((firstAgent.steps {}).map Step.run)).Runs body
      ⟨.idle, none⟩ := by
  have run : (Pass.run (Settings.requeueDelay {}) ((firstAgent.steps {}).map Step.run)).Runs
      [.call (.apply _ _ _) (.ok (agentOf 1)), .call (.apply _ _ _) (.ok (agentOf 1)),
        .call (.apply _ _ _) (.ok (agentOf 1)), .call (.apply _ _ _) (.ok (agentOf 1)),
        .call (.apply _ _ _) (.ok (agentOf 1)), .call (.apply _ _ _) (.ok (agentOf 1)),
        .call (.delete _) (.ok ()), .call (.get _) (.ok (agentOf 1))] ⟨.idle, none⟩ :=
    .call _ (.call _ (.call _ (.call _ (.call _ (.call _ (.call _ (.call _ (.done _))))))))
  exact ⟨_, run⟩

theorem firstWriter_writes (generation : Int) (workload : Except StoreError Object) :
    (firstWriter.run none).Runs
      (firstWriter.readings (agentOf generation) workload ⟨⟨0, 0⟩, .zero⟩ ++
        .call (.replaceStatus ⟨.nodeAgent, (agentOf generation).withStatus (some (encodeStatus
          (firstWriter.derived none (agentOf generation) workload ⟨⟨0, 0⟩, .zero⟩).1))⟩)
          (.ok (agentOf generation)) :: [.measure .statusUpdate])
      (.ok .written) :=
  .call _ (.call _ (.clock _ (.call _ (.measure _ (.done _)))))

theorem firstAgent_pass {body status : List Event} {write : StatusWrite}
    (steps : (Pass.run (Settings.requeueDelay {}) ((firstAgent.steps {}).map Step.run)).Runs body
      ⟨.idle, none⟩)
    (writing : (firstWriter.run none).Runs status (.ok write)) :
    (firstAgent.pass {} {}).Runs (body ++ status) ⟨.idle, none⟩ :=
  Program.runs_bind.mpr ⟨body, _, status, rfl, steps,
    Program.runs_bind.mpr ⟨status, _, [], (List.append_nil status).symm, writing, .done _⟩⟩

theorem firstAgent_writes (generation : Int) :
    ∃ earlier outcome, (firstAgent.pass {} {}).Runs
      (earlier ++ firstWriter.readings (agentOf generation) noWorkload ⟨⟨0, 0⟩, .zero⟩ ++
        .call (.replaceStatus ⟨.nodeAgent,
          (agentOf generation).withStatus (some (encodeStatus (conditionsOf generation)))⟩)
          (.ok (agentOf generation)) :: [.measure .statusUpdate]) outcome := by
  obtain ⟨body, steps⟩ := firstAgent_steps
  have run := firstAgent_pass steps (firstWriter_writes generation noWorkload)
  rw [← List.append_assoc] at run
  exact ⟨body, _, run⟩

theorem firstAgent_observes_own_generation :
    ∃ before written answer after outcome,
      (firstAgent.pass {} {}).Runs (before ++ .call (.replaceStatus written) answer :: after)
        outcome ∧
      ∃ conditions, written.object = (agentOf 1).withStatus (some (encodeStatus conditions)) ∧
        conditions.map (·.type) = Condition.required ∧
        ∀ c ∈ conditions, c.observedGeneration = firstAgent.metadata.generation := by
  obtain ⟨steps, outcome, run⟩ := firstAgent_writes 1
  obtain ⟨earlier, read, workload, moment, conditions, split, same, types, _, exact_⟩ :=
    observedGeneration_iff run rfl
  obtain ⟨_, readings⟩ := List.append_inj' split rfl
  obtain rfl : agentOf 1 = read := by
    cases readings
    rfl
  refine ⟨_, _, _, _, outcome, run, conditions, ?_, types, exact_.mpr rfl⟩
  rw [same]

theorem firstAgent_observes_later_generation :
    ∃ before conditions answer after outcome,
      (firstAgent.pass {} {}).Runs
        (before ++ .call (.replaceStatus ⟨.nodeAgent,
          (agentOf 2).withStatus (some (encodeStatus conditions))⟩) (.ok answer) :: after)
        outcome ∧
      firstAgent.metadata.isDeleting = false ∧ firstAgent.metadata.generation = some 1 ∧
      conditions.map (·.type) = Condition.required ∧
      ∀ c ∈ conditions, c.observedGeneration = some 2 := by
  obtain ⟨steps, outcome, run⟩ := firstAgent_writes 2
  exact ⟨_, conditionsOf 2, _, _, outcome, run, rfl, rfl, Condition.types_derive _ _ _ _ _,
    fun c member => Condition.observedGeneration_of_mem_derive member⟩

end Instance
end AgentOperator
