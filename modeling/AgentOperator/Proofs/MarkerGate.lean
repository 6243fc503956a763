import AgentOperator.Proofs.CleanupMarker
import AgentOperator.Proofs.StepResults

/-!
What stands before a write of the cleanup marker, whatever the store answers. The marker comes
behind all other steps, and it is reached only if each of them proceeded. A step proceeds after an
error only if it is one whose errors are passed over, and these are few: an agent runs without its
service, and a credential that is not wanted is removed when it can be.
-/
namespace AgentOperator

def Event.verb? : Event → Option Verb
  | .call c _ => some c.verb
  | _ => none

def Present (answer : Except StoreError Object) : Prop :=
  (∃ object, answer = .ok object) ∨ ∃ text, answer = .error (.alreadyExists text)

/-- The call went well, or was a look that found nothing. -/
def Event.Uneventful : Event → Prop
  | .call c answer =>
    (∃ reply, answer = .ok reply) ∨ c.verb = .get ∧ ∃ text, answer = .error (.notFound text)
  | _ => True

namespace Step

def Tolerant : Step → Prop
  | .apply s => s.onError = .proceed
  | .delete s => s.onError = .proceed
  | .credential s => s.enabled = false
  | .provision _ | .marker _ => False

def Served : Step → List Event → Prop
  | .apply s, events =>
    ∃ r stored, s.desired? = some r ∧
      events = [.call (.apply r Conventions.fieldManager true) (.ok stored)]
  | .delete s, events =>
    ∃ answer, events = [.call (.delete s.resource.slot) answer] ∧ Deleted answer
  | .provision s, events =>
    (∃ object, events = [.call (.get s.resource.slot) (.ok object)]) ∨
      ∃ text answer, events = [.call (.get s.resource.slot) (.error (.notFound text)),
        .call (.create s.resource) answer] ∧ Present answer
  | .credential _, events => ∀ e ∈ events, e.Uneventful
  | .marker s, events =>
    (∃ text, events = [.call (.get s.slot) (.error (.notFound text))]) ∨
      ∃ current, events = [.call (.get s.slot) (.ok current)] ∧ s.amended? current = none

end Step

namespace ApplyStep
variable {s : ApplyStep} {events : List Event} {result : StepResult}

theorem conclude_of_proceed {answer : Except StoreError Object} (essential : s.onError ≠ .proceed)
    (proceeds : (s.conclude answer).action = .proceed) : ∃ stored, answer = .ok stored := by
  unfold conclude at proceeds
  split at proceeds
  · exact ⟨_, rfl⟩
  · cases proceeds
  · cases proceeds
  · exact absurd proceeds essential

theorem served_of_proceed (run : s.run.Runs events result) (essential : s.onError ≠ .proceed)
    (proceeds : result.action = .proceed) : result = .ok ∧ (Step.apply s).Served events := by
  rcases runs_iff.mp run with ⟨_, _, rfl⟩ | ⟨r, answer, desired, rfl, rfl⟩
  · cases proceeds
  · obtain ⟨stored, rfl⟩ := conclude_of_proceed essential proceeds
    exact ⟨rfl, r, stored, desired, rfl⟩

end ApplyStep

namespace DeleteStep
variable {s : DeleteStep} {events : List Event} {result : StepResult}

theorem served_of_proceed (run : s.run.Runs events result) (essential : s.onError ≠ .proceed)
    (proceeds : result.action = .proceed) : result = .ok ∧ (Step.delete s).Served events := by
  obtain ⟨answer, rfl, rfl⟩ := runs_iff.mp run
  have deleted := deleted_of_proceed essential proceeds
  exact ⟨s.conclude_of_deleted deleted, answer, rfl, deleted⟩

end DeleteStep

namespace ProvisionStep
variable {s : ProvisionStep} {events : List Event} {result : StepResult}

theorem present_of_proceed {answer : Except StoreError Object}
    (proceeds : (s.conclude answer).action = .proceed) :
    s.conclude answer = .ok ∧ Present answer := by
  unfold conclude at proceeds ⊢
  split at proceeds
  · exact ⟨rfl, Or.inl ⟨_, rfl⟩⟩
  · exact ⟨rfl, Or.inr ⟨_, rfl⟩⟩
  · cases proceeds

theorem served_of_proceed (run : s.run.Runs events result) (proceeds : result.action = .proceed) :
    result = .ok ∧ (Step.provision s).Served events := by
  unfold ProvisionStep.run at run
  simp only [Program.get_bind, Program.runs_call] at run
  obtain ⟨answer, rest, rfl, run⟩ := run
  cases answer with
  | ok object =>
    obtain ⟨rfl, rfl⟩ := Program.runs_pure.mp run
    exact ⟨rfl, Or.inl ⟨object, rfl⟩⟩
  | error error =>
    cases error with
    | notFound text =>
      simp only [Program.create_bind, Program.runs_call, Program.runs_pure] at run
      obtain ⟨answer, _, rfl, rfl, rfl⟩ := run
      obtain ⟨fine, present⟩ := present_of_proceed proceeds
      exact ⟨fine, Or.inr ⟨text, answer, rfl, present⟩⟩
    | conflict text =>
      obtain ⟨_, rfl⟩ := Program.runs_pure.mp run
      cases proceeds
    | alreadyExists text =>
      obtain ⟨_, rfl⟩ := Program.runs_pure.mp run
      cases proceeds
    | request text =>
      obtain ⟨_, rfl⟩ := Program.runs_pure.mp run
      cases proceeds

end ProvisionStep

namespace MarkerStep
variable {s : MarkerStep} {events : List Event} {result : StepResult}

theorem conclude_ne_proceed (s : MarkerStep) (answer : Except StoreError Object) :
    (s.conclude answer).action ≠ .proceed := by
  cases answer <;> simp [conclude, StepResult.stop, StepResult.fail]

theorem served_of_proceed (run : s.run.Runs events result) (proceeds : result.action = .proceed) :
    result = .ok ∧ (Step.marker s).Served events := by
  unfold MarkerStep.run at run
  simp only [Program.get_bind, Program.runs_call] at run
  obtain ⟨answer, rest, rfl, run⟩ := run
  cases answer with
  | ok current =>
    dsimp only at run
    cases amended : s.amended? current with
    | none =>
      rw [amended] at run
      obtain ⟨rfl, rfl⟩ := Program.runs_pure.mp run
      exact ⟨rfl, Or.inr ⟨current, rfl, amended⟩⟩
    | some changed =>
      rw [amended] at run
      simp only [Program.replace_bind, Program.runs_call, Program.runs_pure] at run
      obtain ⟨answer, _, rfl, rfl, rfl⟩ := run
      exact absurd proceeds (s.conclude_ne_proceed answer)
  | error error =>
    cases error with
    | notFound text =>
      obtain ⟨rfl, rfl⟩ := Program.runs_pure.mp run
      exact ⟨rfl, Or.inl ⟨text, rfl⟩⟩
    | conflict text =>
      obtain ⟨_, rfl⟩ := Program.runs_pure.mp run
      cases proceeds
    | alreadyExists text =>
      obtain ⟨_, rfl⟩ := Program.runs_pure.mp run
      cases proceeds
    | request text =>
      obtain ⟨_, rfl⟩ := Program.runs_pure.mp run
      cases proceeds

end MarkerStep

theorem Program.uneventful_of_poll {slot : Slot} {window : PollWindow} {events : List Event}
    {found : Option Object} (run : (Program.poll slot window).Runs events (.ok found)) :
    ∀ e ∈ events, e.Uneventful := by
  obtain ⟨start, looks, rfl, looked⟩ := Program.looked_of_poll run
  clear run
  refine List.forall_mem_cons.mpr ⟨trivial, ?_⟩
  generalize same : Except.ok found = value at looked
  induction looked with
  | spent => simp
  | found object => simp [Event.Uneventful]
  | failed worse => cases same
  | late text moment => simp [Event.Uneventful, Call.verb]
  | again text moment span rest ih => simpa [Event.Uneventful, Call.verb] using ih same

namespace CredentialStep
variable {s : CredentialStep} {events : List Event} {result : StepResult}

theorem served_of_issuance {now : Timestamp} (issuance : s.Issuance now events result)
    (proceeds : result.action = .proceed) : result = .ok ∧ ∀ e ∈ events, e.Uneventful := by
  cases issuance with
  | ungranted source => cases proceeds
  | unowned lone => cases proceeds
  | refused error desired => cases error <;> cases proceeds
  | issued stored desired => simp [Event.Uneventful]

theorem served_of_proceed (run : s.run.Runs events result) (wanted : s.enabled = true)
    (proceeds : result.action = .proceed) : result = .ok ∧ (Step.credential s).Served events := by
  cases did_of_run run with
  | removed unwanted run => simp [wanted] at unwanted
  | refused wanted waited => cases proceeds
  | missed wanted waited => cases proceeds
  | unread wanted waited looked => cases proceeds
  | kept wanted waited looked good =>
    exact ⟨rfl, List.forall_mem_append.mpr ⟨Program.uneventful_of_poll waited,
      List.forall_mem_cons.mpr ⟨trivial, Program.uneventful_of_poll looked⟩⟩⟩
  | renewed wanted waited looked due issuance =>
    obtain ⟨fine, uneventful⟩ := served_of_issuance issuance proceeds
    exact ⟨fine, List.forall_mem_append.mpr ⟨Program.uneventful_of_poll waited,
      List.forall_mem_cons.mpr ⟨trivial,
        List.forall_mem_append.mpr ⟨Program.uneventful_of_poll looked, uneventful⟩⟩⟩⟩

end CredentialStep

theorem Step.served_of_proceed {step : Step} {events : List Event} {result : StepResult}
    (run : step.run.Runs events result) (essential : ¬ step.Tolerant)
    (proceeds : result.action = .proceed) : result = .ok ∧ step.Served events := by
  cases step with
  | apply s => exact ApplyStep.served_of_proceed run essential proceeds
  | delete s => exact DeleteStep.served_of_proceed run essential proceeds
  | provision s => exact ProvisionStep.served_of_proceed run proceeds
  | credential s =>
    exact CredentialStep.served_of_proceed run (by simpa [Tolerant] using essential) proceeds
  | marker s => exact MarkerStep.served_of_proceed run proceeds

structure StepRun where
  step : Step
  events : List Event
  result : StepResult
  run : step.run.Runs events result

namespace Pass
variable {steps : List Step} {events : List Event} {results : List StepResult}

theorem proceed_of_idle {programs : List (Program StepResult)} {delay : Duration}
    {error : Option StepError} (ran : Ran programs events results)
    (idle : (conclude delay error results).schedule = .idle) :
    ∀ result ∈ results, result.action = .proceed := by
  intro result member
  refine Decidable.byContradiction fun ends => ?_
  have last := ran.getLast_of_not_proceed member ends
  unfold conclude at idle
  rw [last] at idle
  cases action : result.action with
  | proceed => exact ends action
  | stop => simp [action] at idle
  | requeue => simp [action] at idle

theorem Ran.exists_stepRuns (ran : Ran (steps.map Step.run) events results)
    (each : ∀ result ∈ results, result.action = .proceed) :
    ∃ runs : List StepRun, runs.map StepRun.step = steps ∧
      runs.flatMap StepRun.events = events ∧ runs.map StepRun.result = results := by
  induction steps generalizing events results with
  | nil =>
    cases ran
    exact ⟨[], rfl, rfl, rfl⟩
  | cons step rest ih =>
    cases ran with
    | @proceeded _ _ own others result results run proceeds after =>
      obtain ⟨runs, rfl, rfl, rfl⟩ :=
        ih after fun r member => each r (List.mem_cons_of_mem _ member)
      exact ⟨⟨step, own, result, run⟩ :: runs, rfl, rfl, rfl⟩
    | ended run ends => exact absurd (each _ (List.mem_singleton_self _)) ends

end Pass

namespace Instance
variable {i : Instance} {settings : Settings} {policy : RetryPolicy} {events : List Event}
  {outcome : Outcome} {step : Step}

/-- The steps whose failure a pass lives with: the service of an agent, and the removal of a
credential that it is not to have. -/
def BestEffort (i : Instance) (settings : Settings) (step : Step) : Prop :=
  ∃ spec, i.spec = .agent spec ∧
    (step = i.applyStep (Manifest.service (Blueprint.ofInstance i settings) .full).resource
        .proceed ∨
      spec.credentials = false ∧ step = .credential (i.credentialStep spec settings))

theorem bestEffort_of_tolerant (member : step ∈ i.ownSteps settings) (tolerant : step.Tolerant) :
    i.BestEffort settings step := by
  unfold ownSteps at member
  split at member
  · obtain ⟨resource, rfl⟩ := cases_of_cleanup member
    cases tolerant
  · unfold applySteps at member
    cases kind : i.spec with
    | agent spec =>
      simp only [kind, List.mem_cons, List.not_mem_nil, or_false] at member
      rcases member with rfl | rfl | rfl | rfl | rfl | rfl | rfl
      · cases tolerant
      · cases tolerant
      · cases tolerant
      · cases tolerant
      · exact ⟨spec, kind, Or.inl rfl⟩
      · cases tolerant
      · exact ⟨spec, kind, Or.inr ⟨tolerant, rfl⟩⟩
    | scanner spec =>
      simp only [kind, List.mem_cons, List.not_mem_nil, or_false] at member
      rcases member with rfl | rfl | rfl | rfl | rfl | rfl <;> cases tolerant

/-- What was done before the marker is written: all the other steps ran in their order and
proceeded, only a best-effort one after an error, and the instance was read afresh. -/
structure Gated (i : Instance) (settings : Settings) (before : List Event) (written : Object)
    (runs : List StepRun) (current : Object) : Prop where
  events_eq : before =
    runs.flatMap StepRun.events ++ [.call (.get i.markerStep.slot) (.ok current)]
  steps_eq : runs.map StepRun.step = i.ownSteps settings
  proceeded : ∀ r ∈ runs, r.result.action = .proceed
  served : ∀ r ∈ runs, ¬ i.BestEffort settings r.step →
    r.result.error = none ∧ r.step.Served r.events
  amended : i.markerStep.amended? current = some written

theorem gated_of_replace (run : (i.pass settings policy).Runs events outcome)
    {before after : List Event} {written : Resource} {answer : Except StoreError Object}
    (split : events = before ++ .call (.replace written) answer :: after) :
    ∃ runs current, i.Gated settings before written.object runs current := by
  obtain ⟨own, current, reached, rfl, amended, idle, ownRun⟩ := replace_of_pass run split
  obtain ⟨results, ran, rfl⟩ := Pass.runs_runFrom_iff.mp ownRun
  have each := Pass.proceed_of_idle ran idle
  obtain ⟨runs, steps, rfl, rfl⟩ := ran.exists_stepRuns each
  have proceeded : ∀ r ∈ runs, r.result.action = .proceed := by
    intro r member
    exact each _ (List.mem_map_of_mem member)
  refine ⟨runs, current, rfl, steps, proceeded, ?_, amended⟩
  intro r member essential
  have inSteps : r.step ∈ i.ownSteps settings := steps ▸ List.mem_map_of_mem member
  have notTolerant : ¬ r.step.Tolerant :=
    fun tolerant => essential (bestEffort_of_tolerant inSteps tolerant)
  obtain ⟨fine, served⟩ := Step.served_of_proceed r.run notTolerant (proceeded r member)
  exact ⟨by rw [fine]; rfl, served⟩

theorem countP_replace_of_marker {result : StepResult}
    (run : i.markerStep.run.Runs events result) :
    events.countP (fun e => e.verb? = some .replace) ≤ 1 := by
  rcases MarkerStep.runs_cases run with
    ⟨error, rfl⟩ | ⟨current, rfl, _⟩ | ⟨current, changed, answer, _, rfl, _⟩ <;>
  simp [Event.verb?, Call.verb]

theorem countP_replace_le (run : (i.pass settings policy).Runs events outcome) :
    events.countP (fun e => e.verb? = some .replace) ≤ 1 := by
  rcases pass_parts run with rfl | ⟨own, marker, status, rfl, parts⟩
  · simp
  · have none_own : own.countP (fun e => e.verb? = some .replace) = 0 := by
      rw [List.countP_eq_zero]
      intro e member
      cases e with
      | call c answer =>
        have other := parts.own_of_mem (·.verb ≠ .replace)
          (fun step inSteps c call => (verb_of_own inSteps call).1) member
        simpa [Event.verb?] using other
      | clock moment => simp [Event.verb?]
      | sleep span => simp [Event.verb?]
      | measure m => simp [Event.verb?]
    have none_status : status.countP (fun e => e.verb? = some .replace) = 0 := by
      rw [List.countP_eq_zero]
      intro e member
      cases e with
      | call c answer =>
        rcases parts.status_of_mem member with ⟨slot, rfl⟩ | ⟨object, rfl⟩ <;>
          simp [Event.verb?, Call.verb]
      | clock moment => simp [Event.verb?]
      | sleep span => simp [Event.verb?]
      | measure m => simp [Event.verb?]
    have one_marker : marker.countP (fun e => e.verb? = some .replace) ≤ 1 := by
      obtain ⟨_, _, nothing | ⟨_, result, marking⟩⟩ := parts.own_marker
      · simp [nothing]
      · exact countP_replace_of_marker marking
    rw [List.countP_append, List.countP_append]
    omega

theorem verb_of_deleting (deleting : i.metadata.isDeleting = true)
    (run : (i.pass settings policy).Runs events outcome) {c : Call} {answer : c.Answer}
    (member : .call c answer ∈ events) :
    c.verb = .delete ∨ c.verb = .get ∨ c.verb = .replace ∨ c.verb = .replaceStatus := by
  have cleaning : i.ownSteps settings = i.cleanupSteps settings := if_pos deleting
  refine sort_of_pass
    (fun c => c.verb = .delete ∨ c.verb = .get ∨ c.verb = .replace ∨ c.verb = .replaceStatus)
    run ?_ ?_ ?_ member
  · intro step inSteps c call
    rw [cleaning] at inSteps
    obtain ⟨resource, rfl⟩ := cases_of_cleanup inSteps
    obtain rfl : c = _ := call
    exact Or.inl rfl
  · intro c call
    rcases call with rfl | ⟨object, rfl⟩
    · exact Or.inr (Or.inl rfl)
    · exact Or.inr (Or.inr (Or.inl rfl))
  · intro c call
    rcases call with ⟨slot, rfl⟩ | ⟨object, rfl⟩
    · exact Or.inr (Or.inl rfl)
    · exact Or.inr (Or.inr (Or.inr rfl))

/-- Whatever each call is answered: a pass writes the marker at most once, and only behind all its
other steps; over a copy that is being deleted it brings nothing about, and one without the marker
it leaves alone. -/
theorem replace_only_behind_steps (run : (i.pass settings policy).Runs events outcome) :
    events.countP (fun e => e.verb? = some .replace) ≤ 1 ∧
    (∀ before written answer after,
      events = before ++ .call (.replace written) answer :: after →
        ∃ runs current, i.Gated settings before written.object runs current) ∧
    (i.metadata.isDeleting = true → ∀ e ∈ events,
      e.verb? ≠ some .apply ∧ e.verb? ≠ some .create ∧ e.verb? ≠ some .requestToken) ∧
    (i.metadata.isDeleting = true → i.metadata.hasMarker Conventions.cleanupMarker = false →
      events = []) := by
  refine ⟨countP_replace_le run, ?_, ?_, ?_⟩
  · intro before written answer after split
    exact gated_of_replace run split
  · intro deleting e member
    cases e with
    | call c answer =>
      rcases verb_of_deleting deleting run member with verb | verb | verb | verb <;>
        simp [Event.verb?, verb]
    | clock moment => simp [Event.verb?]
    | sleep span => simp [Event.verb?]
    | measure m => simp [Event.verb?]
  · intro deleting bare
    exact nothing_of_bare deleting bare run

def arriving : Object :=
  { metadata := { name := some "telemetry", ns := some "observability", uid := some "agent-uid" } }

def arrivingAgent : Instance := { metadata := arriving.metadata, spec := .agent {} }

def refused : StoreError := .request "the server refused"

theorem arrivingAgent_marked_behind_steps :
    ∃ before written answer after outcome,
      (arrivingAgent.pass {} {}).Runs (before ++ .call (.replace written) answer :: after) outcome ∧
      (∃ r manager force, .call (.apply r manager force) (.error refused) ∈ before) ∧
      ∃ runs current, arrivingAgent.Gated {} before written.object runs current := by
  have run : (arrivingAgent.pass {} {}).Runs
      ([.call (.apply _ _ _) (.ok arriving), .call (.apply _ _ _) (.ok arriving),
          .call (.apply _ _ _) (.ok arriving), .call (.apply _ _ _) (.ok arriving),
          .call (.apply _ _ _) (.error refused), .call (.apply _ _ _) (.ok arriving),
          .call (.delete _) (.error refused), .call (.get _) (.ok arriving)] ++
        .call (.replace _) (.ok arriving) :: [.call (.get _) (.error gone)])
      ⟨.soon, some (.delete _ refused)⟩ :=
    .call _ (.call _ (.call _ (.call _ (.call _ (.call _ (.call _ (.call _ (.call _ (.call _
      (.done _))))))))))
  refine ⟨_, _, _, _, _, run, ⟨?service, Conventions.fieldManager, true, ?tolerated⟩,
    (replace_only_behind_steps run).2.1 _ _ _ _ rfl⟩
  case tolerated =>
    iterate 4 refine List.mem_cons_of_mem _ ?_
    exact List.mem_cons_self

end Instance
end AgentOperator
