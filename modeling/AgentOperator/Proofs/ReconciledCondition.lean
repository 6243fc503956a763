import AgentOperator.Proofs.JsonMembers
import AgentOperator.Proofs.ObservedGeneration
import AgentOperator.Proofs.StepResults

/-!
What it takes for a pass to report that it succeeded. It does so when its steps come to no error,
and a step that met a race with another writer, or that could not read the instance, asks for
another pass and drops every error. So the report is true exactly if the store refused nothing: no
apply, and no deletion of what is there.
-/
namespace AgentOperator

theorem StepResult.fail_ne_ok (action : Action) (error : StepError) : fail action error ≠ ok := by
  simp [fail, ok]

theorem StepResult.requeue_ne_ok : requeue ≠ ok := by
  simp [requeue, ok]

/-- The store did not do what it was asked for: an apply failed, or a deletion left something. -/
def Event.Refused : Event → Prop
  | .call (.apply _ _ _) answer => ∃ error, answer = .error error
  | .call (.delete _) answer => ¬ Deleted answer
  | _ => False

def Call.Gentle (c : Call) : Prop := c.verb ≠ .apply ∧ c.verb ≠ .delete

theorem Program.Runs.granted_of_only {α : Type} {p : Program α} {events : List Event} {value : α}
    (run : p.Runs events value) (only : p.Only Call.Gentle) : ∀ e ∈ events, ¬ e.Refused := by
  intro e member refused
  cases e with
  | call c answer =>
    have gentle := run.sort_of_mem only member
    cases c with
    | apply r manager force => exact gentle.1 rfl
    | delete slot => exact gentle.2 rfl
    | _ => exact refused
  | _ => exact refused

theorem Program.only_gentle_poll (slot : Slot) (window : PollWindow) :
    (Program.poll slot window).Only Call.Gentle := by
  refine (Program.only_poll slot window).mono ?_
  intro c same
  rw [same]
  exact ⟨by simp [Call.verb], by simp [Call.verb]⟩

/-- A step that is done if its result is fine. If not, then something was refused, or the step stops
the pass with an error. -/
def Program.Frank (p : Program StepResult) : Prop :=
  ∀ events result, p.Runs events result →
    (result = .ok → ∀ e ∈ events, ¬ e.Refused) ∧
    (result ≠ .ok → (∃ e ∈ events, e.Refused) ∨
      ∃ met, result.action = .stop ∧ result.error = some met)

namespace Program.Frank

theorem ok : Frank (pure .ok) := by
  intro events result run
  obtain ⟨none, same⟩ := Program.runs_pure.mp run
  rw [none, same]
  simp

theorem stopped (met : StepError) : Frank (pure (.fail .stop met)) := by
  intro events result run
  obtain ⟨_, same⟩ := Program.runs_pure.mp run
  rw [same]
  exact ⟨fun fine => absurd fine (StepResult.fail_ne_ok _ _), fun _ => Or.inr ⟨met, rfl, rfl⟩⟩

theorem after {α : Type} {p : Program α} {f : α → Program StepResult} (only : p.Only Call.Gentle)
    (frank : ∀ a, (f a).Frank) : (p >>= f).Frank := by
  intro events result run
  obtain ⟨first, a, last, rfl, head, tail⟩ := Program.runs_bind.mp run
  have quiet := head.granted_of_only only
  obtain ⟨granted, refused⟩ := frank a last result tail
  constructor
  · intro fine e member
    rcases List.mem_append.mp member with early | late
    · exact quiet e early
    · exact granted fine e late
  · intro bad
    rcases refused bad with ⟨e, member, refused⟩ | stops
    · exact Or.inl ⟨e, List.mem_append_right first member, refused⟩
    · exact Or.inr stops

theorem call {c : Call} {next : c.Answer → Program StepResult} (gentle : c.Gentle)
    (frank : ∀ answer, (next answer).Frank) : Frank (.call c next) := by
  have only : (Program.send c).Only Call.Gentle := ⟨gentle, fun _ => trivial⟩
  exact after only frank

theorem noted {p : Program StepResult} {note : StepResult → Program StepResult} (frank : p.Frank)
    (silent : ∀ result, (note result).Only Call.Gentle)
    (keeps : ∀ result events value, (note result).Runs events value → value = result) :
    (p >>= note).Frank := by
  intro events result run
  obtain ⟨first, middle, last, rfl, head, tail⟩ := Program.runs_bind.mp run
  obtain rfl := keeps middle last result tail
  have quiet := tail.granted_of_only (silent result)
  obtain ⟨granted, refused⟩ := frank first result head
  constructor
  · intro fine e member
    rcases List.mem_append.mp member with early | late
    · exact granted fine e early
    · exact quiet e late
  · intro bad
    rcases refused bad with ⟨e, member, refused⟩ | stops
    · exact Or.inl ⟨e, List.mem_append_left last member, refused⟩
    · exact Or.inr stops

end Program.Frank

theorem ApplyStep.frank (s : ApplyStep) : s.run.Frank := by
  intro events result run
  rcases runs_iff.mp run with ⟨_, _, rfl⟩ | ⟨r, answer, _, rfl, rfl⟩
  · exact ⟨fun fine => absurd fine (StepResult.fail_ne_ok _ _), fun _ => Or.inr ⟨_, rfl, rfl⟩⟩
  · cases answer with
    | ok object =>
      refine ⟨fun _ e member => ?_, fun bad => absurd rfl bad⟩
      rw [List.mem_singleton.mp member]
      rintro ⟨error, same⟩
      cases same
    | error error =>
      refine ⟨fun fine => ?_, fun _ => Or.inl ⟨_, List.mem_singleton_self _, error, rfl⟩⟩
      cases error with
      | conflict text => exact absurd fine StepResult.requeue_ne_ok
      | alreadyExists text => exact absurd fine StepResult.requeue_ne_ok
      | _ => exact absurd fine (StepResult.fail_ne_ok _ _)

theorem DeleteStep.frank (s : DeleteStep) : s.run.Frank := by
  intro events result run
  obtain ⟨answer, rfl, rfl⟩ := runs_iff.mp run
  by_cases deleted : Deleted answer
  · constructor
    · intro _ e member
      rw [List.mem_singleton.mp member]
      intro refused
      exact refused deleted
    · intro bad
      exact absurd (s.conclude_of_deleted deleted) bad
  · refine ⟨fun fine => ?_, fun _ => Or.inl ⟨_, List.mem_singleton_self _, deleted⟩⟩
    unfold conclude at fine
    split at fine
    · exact absurd (Or.inl rfl) deleted
    · exact absurd (Or.inr ⟨_, rfl⟩) deleted
    · exact absurd fine (StepResult.fail_ne_ok _ _)

theorem ProvisionStep.frank (s : ProvisionStep) : s.run.Frank := by
  rw [run, Program.get_bind]
  refine Program.Frank.call (by simp [Call.Gentle, Call.verb]) ?_
  intro answer
  rcases answer with error | object
  · cases error with
    | notFound text =>
      refine Program.Frank.call (by simp [Call.Gentle, Call.verb]) ?_
      intro created
      rcases created with error | object
      · cases error with
        | alreadyExists text => exact .ok
        | _ => exact .stopped _
      · exact .ok
    | _ => exact .stopped _
  · exact .ok

namespace CredentialStep

theorem frank_issue (s : CredentialStep) (now : Timestamp) : (s.issue now).Frank := by
  rw [issue, Program.requestToken_bind]
  refine Program.Frank.call (by simp [Call.Gentle, Call.verb]) ?_
  intro answer
  rcases answer with error | token
  · exact .stopped _
  · refine Program.Frank.noted (ApplyStep.frank _) ?_ ?_
    · intro result
      dsimp only
      split <;> trivial
    · intro result events value run
      dsimp only at run
      split at run
      · obtain ⟨rest, _, finish⟩ := Program.runs_measure.mp run
        exact (Program.runs_pure.mp finish).2
      · exact (Program.runs_pure.mp run).2

theorem frank (s : CredentialStep) : s.run.Frank := by
  unfold run
  split
  · exact DeleteStep.frank _
  · refine Program.Frank.after (Program.only_gentle_poll _ _) ?_
    intro account
    rcases account with error | account
    · exact .stopped _
    · rcases account with _ | account
      · exact .stopped _
      · have clock : Program.now.Only Call.Gentle := fun _ => trivial
        refine Program.Frank.after clock ?_
        intro moment
        refine Program.Frank.after (Program.only_gentle_poll _ _) ?_
        intro secret
        rcases secret with error | secret
        · exact .stopped _
        · rcases secret with _ | secret
          · exact s.frank_issue _
          · dsimp only
            split
            · exact s.frank_issue _
            · exact .ok

end CredentialStep

theorem ConditionStatus.name_injective : Function.Injective name := by
  intro a b same
  cases a <;> cases b <;> first | rfl | simp [name] at same

theorem Json.ofOption_injective {α : Type} {f : α → Json} (injective : Function.Injective f)
    (given : ∀ a, f a ≠ .null) : Function.Injective (ofOption f) := by
  intro a b same
  cases a with
  | none =>
    cases b with
    | none => rfl
    | some b => exact absurd same.symm (given b)
  | some a =>
    cases b with
    | none => exact absurd same (given a)
    | some b => rw [injective same]

theorem Json.text_injective : Function.Injective (ofOption Json.str) :=
  ofOption_injective (fun _ _ same => Json.str.inj same) (by simp)

theorem Condition.encode_injective : Function.Injective encode := by
  intro a b same
  have member (key : String) : a.encode.get? key = b.encode.get? key := by rw [same]
  have type := member "type"
  have status := member "status"
  have generation := member "observedGeneration"
  have time := member "lastTransitionTime"
  have reason := member "reason"
  have message := member "message"
  simp [encode, Json.get?_object] at type status generation time reason message
  obtain ⟨_, _, _, _, _, _⟩ := a
  obtain ⟨_, _, _, _, _, _⟩ := b
  rw [mk.injEq]
  exact ⟨type, ConditionStatus.name_injective status,
    Json.ofOption_injective (fun _ _ same => Json.int.inj same) (by simp) generation,
    Json.text_injective time, Json.text_injective reason, Json.text_injective message⟩

namespace Instance
variable {i : Instance} {settings : Settings} {policy : RetryPolicy} {events : List Event}
  {outcome : Outcome}

theorem encodeStatus_injective : Function.Injective encodeStatus := by
  intro a b same
  have conditions : (encodeStatus a).get? "conditions" = (encodeStatus b).get? "conditions" := by
    rw [same]
  have items : a.map Condition.encode = b.map Condition.encode := by
    simpa [encodeStatus, Json.get?_object] using conditions
  exact (List.map_inj_right Condition.encode_injective).mp items

theorem frank_of_apply {step : Step} (member : step ∈ i.applySteps settings) : step.run.Frank := by
  rcases cases_of_apply member with ⟨resource, onError, rfl⟩ | ⟨s, rfl⟩ | ⟨s, rfl⟩
  · exact ApplyStep.frank _
  · exact s.frank
  · exact s.frank

theorem gentle_marker (i : Instance) : (Step.marker i.markerStep).run.Only Call.Gentle := by
  refine (Step.only_run _).mono ?_
  rintro c (rfl | ⟨object, rfl⟩) <;> simp [Call.Gentle, Call.verb]

theorem gentle_status (w : StatusWriter) (passError : Option String) :
    (w.run passError).Only Call.Gentle := by
  refine (StatusWriter.only_run w passError).mono ?_
  rintro c (⟨slot, rfl⟩ | ⟨object, rfl⟩) <;> simp [Call.Gentle, Call.verb]

/-- Every step that brings the instance about was run by then, and each was done. -/
def BroughtAbout (i : Instance) (settings : Settings) (events : List Event) : Prop :=
  ∃ own, own <+: events ∧
    Pass.Ran ((i.applySteps settings).map Step.run) own
      (List.replicate (i.applySteps settings).length .ok)

theorem ran_of_live (live : i.metadata.isDeleting = false) {body : List Event}
    {results : List StepResult} (ran : Pass.Ran ((i.steps settings).map Step.run) body results) :
    ∃ own early marker late, body = own ++ marker ∧ results = early ++ late ∧
      Pass.Ran ((i.applySteps settings).map Step.run) own early ∧ ∀ e ∈ marker, ¬ e.Refused := by
  have split : (i.steps settings).map Step.run =
      (i.applySteps settings).map Step.run ++ [i.markerStep.run] := by
    simp [Instance.steps, live, Step.run]
  rw [split] at ran
  rcases Pass.ran_append ran with ⟨short, _⟩ | ⟨own, marker, early, late, rfl, rfl, head, _, tail⟩
  · exact ⟨body, results, [], [], by simp, by simp, short, by simp⟩
  · refine ⟨own, early, marker, late, rfl, rfl, head, ?_⟩
    intro e member
    obtain ⟨step, inSteps, mine, _, _, run, inMine⟩ := tail.exists_step_of_mem member
    obtain rfl := List.mem_singleton.mp inSteps
    exact run.granted_of_only (gentle_marker i) e inMine

theorem results_of_status_write (run : (i.pass settings policy).Runs events outcome)
    {before after : List Event} {written : Resource} {answer : Except StoreError Object}
    (write : events = before ++ .call (.replaceStatus written) answer :: after) :
    ∃ body results rest, before = body ++ rest ∧
      Pass.Ran ((i.steps settings).map Step.run) body results ∧ (∀ e ∈ rest, ¬ e.Refused) ∧
      ∀ conditions, written.object.status? = some (encodeStatus conditions) →
        ∀ c ∈ conditions, c.type = Conventions.reconciledType →
          (c.status = .true ↔
            (Pass.conclude settings.requeueDelay none results).error = none) := by
  obtain ⟨body, reached, rest, result, rfl, steps, writing⟩ := status_of_write run write
  obtain ⟨results, ran, rfl⟩ := Pass.runs_runFrom_iff.mp steps
  refine ⟨body, results, rest, rfl, ran, ?_, ?_⟩
  · intro e member
    exact writing.granted_of_only (gentle_status _ _) e (List.mem_append_left _ member)
  · intro conditions report c member about
    obtain ⟨earlier, own, later, finish, rfl, attempt⟩ :=
      StatusWriter.attempt_of_call writing rfl
    obtain ⟨read, workload, moment, rfl, rfl⟩ := StatusWriter.readings_of_write attempt
    rw [Object.status?_withStatus] at report
    obtain rfl := encodeStatus_injective (Option.some.inj report)
    rw [Condition.reconciled_of_mem_derive member about, Option.map_eq_none_iff]

theorem nothing_refused_of_broughtAbout (live : i.metadata.isDeleting = false)
    (run : (i.pass settings policy).Runs events outcome)
    {before after : List Event} {written : Resource} {answer : Except StoreError Object}
    (write : events = before ++ .call (.replaceStatus written) answer :: after)
    (done : i.BroughtAbout settings before) : ∀ e ∈ before, ¬ e.Refused := by
  obtain ⟨body, results, rest, rfl, ran, gentle, _⟩ := results_of_status_write run write
  obtain ⟨own, early, marker, late, rfl, rfl, head, quiet⟩ := ran_of_live live ran
  obtain ⟨mine, within, all⟩ := done
  rw [List.append_assoc] at within
  -- the answers leave the steps no other way than the one they took
  obtain ⟨rfl, rfl⟩ := head.unique all (List.prefix_append own _) within
  intro e member
  rcases List.mem_append.mp member with inBody | inRest
  · rcases List.mem_append.mp inBody with inOwn | inMarker
    · obtain ⟨program, inSteps, part, result, inResults, stepRun, inPart⟩ :=
        head.exists_step_of_mem inOwn
      obtain ⟨step, isStep, rfl⟩ := List.mem_map.mp inSteps
      obtain rfl := List.eq_of_mem_replicate inResults
      exact (frank_of_apply isStep part .ok stepRun).1 rfl e inPart
    · exact quiet e inMarker
  · exact gentle e inRest

theorem broughtAbout_of_nothing_refused (live : i.metadata.isDeleting = false)
    {body rest : List Event} {results : List StepResult}
    (ran : Pass.Ran ((i.steps settings).map Step.run) body results)
    (clean : (Pass.conclude settings.requeueDelay none results).error = none)
    (granted : ∀ e ∈ body, ¬ e.Refused) : i.BroughtAbout settings (body ++ rest) := by
  obtain ⟨own, early, marker, late, rfl, rfl, head, _⟩ := ran_of_live live ran
  have fine : ∀ r ∈ early, r = .ok := by
    intro r member
    refine Decidable.byContradiction fun bad => ?_
    obtain ⟨program, inSteps, part, stepRun, within⟩ := head.exists_step_of_result member
    obtain ⟨step, isStep, rfl⟩ := List.mem_map.mp inSteps
    rcases (frank_of_apply isStep part r stepRun).2 bad with ⟨e, inPart, refused⟩ |
      ⟨met, stops, failed⟩
    · exact granted e (List.mem_append_left marker (within e inPart)) refused
    · have dirty := ran.error_of_stop settings.requeueDelay none
        (List.mem_append_left late member) stops failed
      rw [dirty] at clean
      cases clean
  have proceed : ∀ r ∈ early, r.action = .proceed := by
    intro r member
    rw [fine r member]
    rfl
  have length := head.length_of_proceed proceed
  rw [List.length_map] at length
  rw [List.eq_replicate_of_mem fine, length] at head
  exact ⟨own, by simp, head⟩

/-- When a pass over a live instance reports that it succeeded, all its steps were run and done
exactly if nothing was refused by then. -/
theorem broughtAbout_iff_nothing_refused (live : i.metadata.isDeleting = false)
    (run : (i.pass settings policy).Runs events outcome)
    {before after : List Event} {written : Resource} {answer : Except StoreError Object}
    (write : events = before ++ .call (.replaceStatus written) answer :: after)
    {conditions : List Condition}
    (report : written.object.status? = some (encodeStatus conditions))
    (succeeded : ∃ c ∈ conditions, c.type = Conventions.reconciledType ∧ c.status = .true) :
    i.BroughtAbout settings before ↔ ∀ e ∈ before, ¬ e.Refused := by
  constructor
  · exact nothing_refused_of_broughtAbout live run write
  · intro granted
    obtain ⟨body, results, rest, rfl, ran, _, reports⟩ := results_of_status_write run write
    obtain ⟨c, member, about, positive⟩ := succeeded
    have clean := (reports conditions report c member about).mp positive
    exact broughtAbout_of_nothing_refused live ran clean
      fun e inBody => granted e (List.mem_append_left rest inBody)

theorem conditionsOf_succeeded (generation : Int) : ∃ c ∈ conditionsOf generation,
    c.type = Conventions.reconciledType ∧ c.status = .true := by
  have types := Condition.types_derive (StatusWriter.storedConditions (agentOf generation))
    (some generation) (firstWriter.observe noWorkload) none (Timestamp.render ⟨0, 0⟩)
  have required : Conventions.reconciledType ∈ Condition.required := List.mem_cons_self
  rw [← types] at required
  obtain ⟨c, member, about⟩ := List.mem_map.mp required
  exact ⟨c, member, about, (Condition.reconciled_of_mem_derive member about).mpr rfl⟩

theorem firstAgent_reports_what_it_brought_about :
    ∃ before conditions after outcome,
      (firstAgent.pass {} {}).Runs
        (before ++ .call (.replaceStatus ⟨.nodeAgent,
          (agentOf 1).withStatus (some (encodeStatus conditions))⟩) (.ok (agentOf 1)) :: after)
        outcome ∧
      (∃ c ∈ conditions, c.type = Conventions.reconciledType ∧ c.status = .true) ∧
      firstAgent.BroughtAbout {} before := by
  have run : (firstAgent.pass {} {}).Runs
      ([.call (.apply _ _ _) (.ok (agentOf 1)), .call (.apply _ _ _) (.ok (agentOf 1)),
          .call (.apply _ _ _) (.ok (agentOf 1)), .call (.apply _ _ _) (.ok (agentOf 1)),
          .call (.apply _ _ _) (.ok (agentOf 1)), .call (.apply _ _ _) (.ok (agentOf 1)),
          .call (.delete _) (.ok ()), .call (.get _) (.ok (agentOf 1))] ++
        firstWriter.readings (agentOf 1) noWorkload ⟨⟨0, 0⟩, .zero⟩ ++
        .call (.replaceStatus _) (.ok (agentOf 1)) :: [.measure .statusUpdate])
      ⟨.idle, none⟩ :=
    .call _ (.call _ (.call _ (.call _ (.call _ (.call _ (.call _ (.call _
      (.call _ (.call _ (.clock _ (.call _ (.measure _ (.done _)))))))))))))
  have succeeded := conditionsOf_succeeded 1
  refine ⟨_, conditionsOf 1, _, _, run, succeeded, ?_⟩
  refine (broughtAbout_iff_nothing_refused rfl run rfl (Object.status?_withStatus _ _)
    succeeded).mpr ?_
  simp [Event.Refused, Deleted, StatusWriter.readings]

/-- The first apply met another writer, and no other step was run. -/
theorem firstAgent_reports_success_after_conflict :
    ∃ before conditions after outcome,
      (firstAgent.pass {} {}).Runs
        (before ++ .call (.replaceStatus ⟨.nodeAgent,
          (agentOf 1).withStatus (some (encodeStatus conditions))⟩) (.ok (agentOf 1)) :: after)
        outcome ∧
      firstAgent.metadata.isDeleting = false ∧
      (∃ c ∈ conditions, c.type = Conventions.reconciledType ∧ c.status = .true) ∧
      ¬ firstAgent.BroughtAbout {} before := by
  have run : (firstAgent.pass {} {}).Runs
      ([.call (.apply _ _ _) (.error (.conflict "another writer"))] ++
        firstWriter.readings (agentOf 1) noWorkload ⟨⟨0, 0⟩, .zero⟩ ++
        .call (.replaceStatus _) (.ok (agentOf 1)) :: [.measure .statusUpdate])
      ⟨.after (Settings.requeueDelay {}), none⟩ :=
    .call _ (.call _ (.call _ (.clock _ (.call _ (.measure _ (.done _))))))
  refine ⟨_, conditionsOf 1, _, _, run, rfl, conditionsOf_succeeded 1, ?_⟩
  intro done
  have granted := nothing_refused_of_broughtAbout rfl run rfl done
  exact granted _ List.mem_cons_self ⟨_, rfl⟩

end Instance
end AgentOperator
