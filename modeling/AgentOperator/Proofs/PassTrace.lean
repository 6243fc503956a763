import AgentOperator.Pass
import AgentOperator.Proofs.StepTrace

/-!
The runs of a pass. Its steps run one after the other as long as each says to proceed, so what comes
after some steps was done only if all of them proceeded; the marker comes after all others, and the
status after the marker.
-/
namespace AgentOperator

namespace Pass
variable {delay : Duration} {error : Option StepError} {events : List Event} {outcome : Outcome}

theorem runFrom_append (delay : Duration) (error : Option StepError)
    (first last : List (Program StepResult)) :
    runFrom delay error (first ++ last) = (do
      let outcome ← runFrom delay error first
      match outcome.schedule with
      | .idle => runFrom delay outcome.error last
      | _ => return outcome) := by
  induction first generalizing error with
  | nil => simp [runFrom]
  | cons step rest ih =>
    simp only [List.cons_append, runFrom, bind_assoc]
    congr 1
    funext result
    cases result.action with
    | proceed => exact ih _
    | stop => simp
    | requeue => simp

theorem runs_append {first last : List (Program StepResult)}
    (run : (runFrom delay error (first ++ last)).Runs events outcome) :
    ∃ before middle after, events = before ++ after ∧
      (runFrom delay error first).Runs before middle ∧
      (after = [] ∨ middle.schedule = .idle ∧
        (runFrom delay middle.error last).Runs after outcome) := by
  rw [runFrom_append] at run
  obtain ⟨before, middle, after, rfl, head, tail⟩ := Program.runs_bind.mp run
  refine ⟨before, middle, after, rfl, head, ?_⟩
  cases schedule : middle.schedule with
  | idle =>
    rw [schedule] at tail
    exact Or.inr ⟨rfl, tail⟩
  | soon =>
    rw [schedule] at tail
    exact Or.inl (Program.runs_pure.mp tail).1
  | after span =>
    rw [schedule] at tail
    exact Or.inl (Program.runs_pure.mp tail).1

theorem runs_singleton {step : Program StepResult}
    (run : (runFrom delay error [step]).Runs events outcome) :
    ∃ result, step.Runs events result := by
  obtain ⟨before, result, after, rfl, head, tail⟩ := Program.runs_bind.mp run
  have nothing : after = [] := by
    dsimp only at tail
    cases action : result.action <;> rw [action] at tail <;> exact (Program.runs_pure.mp tail).1
  subst nothing
  exact ⟨result, by simpa using head⟩

theorem proceeded_of_idle {steps : List (Program StepResult)}
    (run : (runFrom delay error steps).Runs events outcome) (idle : outcome.schedule = .idle)
    {step : Program StepResult} (member : step ∈ steps) :
    ∃ before own after result, events = before ++ own ++ after ∧ step.Runs own result ∧
      result.action = .proceed := by
  induction steps generalizing error events with
  | nil => simp at member
  | cons first rest ih =>
    obtain ⟨own, result, others, rfl, head, tail⟩ := Program.runs_bind.mp run
    dsimp only at tail
    cases action : result.action with
    | proceed =>
      rw [action] at tail
      rcases List.mem_cons.mp member with rfl | later
      · exact ⟨[], own, others, result, by simp, head, action⟩
      · obtain ⟨before, mine, after, mineResult, rfl, mineRun, proceeds⟩ := ih tail later
        exact ⟨own ++ before, mine, after, mineResult, by simp, mineRun, proceeds⟩
    | stop =>
      rw [action] at tail
      obtain ⟨_, rfl⟩ := Program.runs_pure.mp tail
      cases idle
    | requeue =>
      rw [action] at tail
      obtain ⟨_, rfl⟩ := Program.runs_pure.mp tail
      cases idle

theorem only_runFrom {sort : Call → Prop} {steps : List (Program StepResult)}
    (each : ∀ step ∈ steps, step.Only sort) : (runFrom delay error steps).Only sort := by
  induction steps generalizing error with
  | nil => trivial
  | cons step rest ih =>
    refine Program.Only.bind (each step (by simp)) ?_
    intro result
    dsimp only
    cases result.action with
    | proceed => exact ih fun s member => each s (List.mem_cons_of_mem step member)
    | stop => trivial
    | requeue => trivial

end Pass

namespace RetryPolicy
variable {α : Type} {policy : RetryPolicy} {retryable : StoreError → Bool}
  {operation : Program (Except StoreError α)} {retries : Nat} {delay : Duration}
  {events : List Event} {value : Except StoreError α}

theorem attempt_of_call
    (run : (policy.attempt retryable Program.pause operation retries delay).Runs events value)
    {before after : List Event} {c : Call} {answer : c.Answer}
    (split : events = before ++ .call c answer :: after) :
    ∃ earlier own rest result, before = earlier ++ own ∧
      operation.Runs (own ++ .call c answer :: rest) result := by
  induction retries generalizing delay events before with
  | zero => exact ⟨[], before, after, value, rfl, split ▸ run⟩
  | succ retries ih =>
    obtain ⟨first, result, others, rfl, head, tail⟩ := Program.runs_bind.mp run
    rcases Event.split_append split with ⟨middle, rfl⟩ | ⟨middle, rfl, rfl⟩
    · exact ⟨[], before, middle, result, rfl, head⟩
    · cases result with
      | ok value =>
        have nothing := (Program.runs_pure.mp tail).1
        simp at nothing
      | error error =>
        -- the call comes after a failed attempt, so after the pause before the next one
        dsimp only at tail
        split at tail
        · rw [Program.pause_bind, Program.runs_sleep] at tail
          obtain ⟨rest, same, again⟩ := tail
          cases middle with
          | nil => cases same
          | cons e middle =>
            obtain ⟨rfl, rfl⟩ := List.cons.inj same
            obtain ⟨earlier, own, rest, result, rfl, inner⟩ := ih again rfl
            exact ⟨first ++ .sleep delay :: earlier, own, rest, result, by simp, inner⟩
        · have nothing := (Program.runs_pure.mp tail).1
          simp at nothing

theorem only_attempt {sort : Call → Prop} (only : operation.Only sort) :
    (policy.attempt retryable Program.pause operation retries delay).Only sort := by
  induction retries generalizing delay with
  | zero => exact only
  | succ retries ih =>
    refine Program.Only.bind only ?_
    intro result
    rcases result with error | value
    · dsimp only
      split
      · exact ih
      · trivial
    · trivial

end RetryPolicy

namespace StatusWriter

def mayCall (w : StatusWriter) (c : Call) : Prop :=
  (∃ slot, c = .get slot) ∨ ∃ object, c = .replaceStatus ⟨w.kind, object⟩

theorem only_attempt (w : StatusWriter) (passError : Option String) :
    (w.attempt passError).Only w.mayCall := by
  rw [attempt, Program.get_bind]
  refine ⟨Or.inl ⟨_, rfl⟩, ?_⟩
  intro answer
  rcases answer with error | object
  · cases error <;> trivial
  · dsimp only
    split
    · trivial
    · rw [Program.get_bind]
      refine ⟨Or.inl ⟨_, rfl⟩, ?_⟩
      intro workload
      dsimp only
      rw [Program.now_bind]
      intro moment
      dsimp only
      split
      · trivial
      · rw [Program.replaceStatus_bind]
        refine ⟨Or.inr ⟨_, rfl⟩, ?_⟩
        intro written
        cases written <;> trivial

theorem only_run (w : StatusWriter) (passError : Option String) :
    (w.run passError).Only w.mayCall := by
  refine Program.Only.bind (RetryPolicy.only_attempt (w.only_attempt passError)) ?_
  intro outcome
  dsimp only
  split <;> trivial

end StatusWriter

namespace Instance
variable {i : Instance} {settings : Settings} {policy : RetryPolicy} {events : List Event}
  {outcome : Outcome}

def ownSteps (i : Instance) (settings : Settings) : List Step :=
  if i.metadata.isDeleting then i.cleanupSteps settings else i.applySteps settings

def ownProgram (i : Instance) (settings : Settings) : Program Outcome :=
  Pass.runFrom settings.requeueDelay none ((i.ownSteps settings).map Step.run)

theorem nothing_of_bare (deleting : i.metadata.isDeleting = true)
    (bare : i.metadata.hasMarker Conventions.cleanupMarker = false)
    (run : (i.pass settings policy).Runs events outcome) : events = [] := by
  rw [pass, if_pos (by simp [deleting, bare])] at run
  exact (Program.runs_pure.mp run).1

/-- What a pass did, in three parts: its own steps, then the marker if all of them proceeded, then
the status. -/
structure PassParts (i : Instance) (settings : Settings) (policy : RetryPolicy)
    (own marker status : List Event) : Prop where
  own_marker : ∃ outcome, (i.ownProgram settings).Runs own outcome ∧
    (marker = [] ∨ outcome.schedule = .idle ∧ ∃ result, i.markerStep.run.Runs marker result)
  status : ∃ passError written, ((i.statusWriter settings policy).run passError).Runs status written

theorem pass_parts (run : (i.pass settings policy).Runs events outcome) :
    events = [] ∨ ∃ own marker status, events = own ++ marker ++ status ∧
      i.PassParts settings policy own marker status := by
  unfold pass at run
  split at run
  · exact Or.inl (Program.runs_pure.mp run).1
  · right
    obtain ⟨body, reached, rest, rfl, steps, tail⟩ := Program.runs_bind.mp run
    obtain ⟨status, written, nothing, rfl, writing, finish⟩ := Program.runs_bind.mp tail
    obtain ⟨rfl, _⟩ := Program.runs_pure.mp finish
    have split : (i.steps settings).map Step.run =
        (i.ownSteps settings).map Step.run ++ [i.markerStep.run] := by
      simp [Instance.steps, ownSteps, Step.run]
    rw [Pass.run, split] at steps
    obtain ⟨own, middle, marker, rfl, first, last⟩ := Pass.runs_append steps
    refine ⟨own, marker, status, by simp, ⟨⟨middle, first, ?_⟩, ⟨_, written, writing⟩⟩⟩
    rcases last with none | ⟨idle, marked⟩
    · exact Or.inl none
    · exact Or.inr ⟨idle, Pass.runs_singleton marked⟩

theorem sort_of_own {reached : Outcome} (run : (i.ownProgram settings).Runs events reached)
    (sort : Call → Prop) (each : ∀ step ∈ i.ownSteps settings, ∀ c, step.mayCall c → sort c)
    {c : Call} {answer : c.Answer} (member : .call c answer ∈ events) : sort c := by
  refine run.sort_of_mem (Pass.only_runFrom ?_) member
  intro program inSteps
  obtain ⟨step, stepIn, rfl⟩ := List.mem_map.mp inSteps
  exact step.only_run.mono (each step stepIn)

theorem PassParts.own_of_mem {own marker status : List Event}
    (parts : i.PassParts settings policy own marker status) (sort : Call → Prop)
    (each : ∀ step ∈ i.ownSteps settings, ∀ c, step.mayCall c → sort c)
    {c : Call} {answer : c.Answer} (member : .call c answer ∈ own) : sort c := by
  obtain ⟨outcome, run, _⟩ := parts.own_marker
  exact sort_of_own run sort each member

theorem PassParts.marker_of_mem {own marker status : List Event}
    (parts : i.PassParts settings policy own marker status)
    {c : Call} {answer : c.Answer} (member : .call c answer ∈ marker) :
    (Step.marker i.markerStep).mayCall c := by
  obtain ⟨_, _, nothing | ⟨_, result, run⟩⟩ := parts.own_marker
  · simp [nothing] at member
  · exact run.sort_of_mem (Step.only_run (.marker i.markerStep)) member

theorem PassParts.status_of_mem {own marker status : List Event}
    (parts : i.PassParts settings policy own marker status)
    {c : Call} {answer : c.Answer} (member : .call c answer ∈ status) :
    (i.statusWriter settings policy).mayCall c := by
  obtain ⟨passError, written, run⟩ := parts.status
  exact run.sort_of_mem (StatusWriter.only_run _ _) member

theorem sort_of_pass (sort : Call → Prop) (run : (i.pass settings policy).Runs events outcome)
    (own : ∀ step ∈ i.ownSteps settings, ∀ c, step.mayCall c → sort c)
    (marker : ∀ c, (Step.marker i.markerStep).mayCall c → sort c)
    (status : ∀ c, (i.statusWriter settings policy).mayCall c → sort c)
    {c : Call} {answer : c.Answer} (member : .call c answer ∈ events) : sort c := by
  rcases pass_parts run with rfl | ⟨ownEvents, markerEvents, statusEvents, rfl, parts⟩
  · simp at member
  · rcases List.mem_append.mp member with body | last
    · rcases List.mem_append.mp body with first | middle
      · exact parts.own_of_mem sort own first
      · exact marker c (parts.marker_of_mem middle)
    · exact status c (parts.status_of_mem last)

end Instance
end AgentOperator
