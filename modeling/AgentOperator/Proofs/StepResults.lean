import AgentOperator.Proofs.PassTrace

/-!
The results of the steps of a pass. A pass runs its steps up to the first that does not proceed, and
its outcome is read off their results: how the last one ended, and the last error that any of them
met, unless the pass is to be run again without one.
-/
namespace AgentOperator.Pass
variable {step : Program StepResult} {steps first last : List (Program StepResult)}
  {events whole others : List Event} {result : StepResult} {results : List StepResult}
  {delay : Duration} {error : Option StepError} {outcome : Outcome}

/-- What the steps did, and the result of each that ran; behind one that did not proceed there is
none. -/
inductive Ran : List (Program StepResult) → List Event → List StepResult → Prop where
  | none : Ran [] [] []
  | proceeded {step : Program StepResult} {rest : List (Program StepResult)}
      {own others : List Event} {result : StepResult} {results : List StepResult}
      (run : step.Runs own result) (proceeds : result.action = .proceed)
      (after : Ran rest others results) : Ran (step :: rest) (own ++ others) (result :: results)
  | ended {step : Program StepResult} {rest : List (Program StepResult)} {own : List Event}
      {result : StepResult} (run : step.Runs own result) (ends : result.action ≠ .proceed) :
      Ran (step :: rest) own [result]

def lastError (error : Option StepError) (results : List StepResult) : Option StepError :=
  results.foldl (fun error result => result.error.or error) error

def conclude (delay : Duration) (error : Option StepError) (results : List StepResult) : Outcome :=
  match results.getLast?.map StepResult.action with
  | none | some .proceed => ⟨.idle, lastError error results⟩
  | some .stop => ⟨.soon, lastError error results⟩
  | some .requeue => ⟨.after delay, none⟩

theorem conclude_cons (delay : Duration) (error : Option StepError)
    (proceeds : result.action = .proceed) (results : List StepResult) :
    conclude delay error (result :: results) = conclude delay (result.error.or error) results := by
  cases results with
  | nil => simp [conclude, lastError, proceeds]
  | cons next results => simp [conclude, lastError, List.getLast?_cons_cons]

theorem runs_runFrom_iff :
    (runFrom delay error steps).Runs events outcome ↔
      ∃ results, Ran steps events results ∧ outcome = conclude delay error results := by
  induction steps generalizing error events with
  | nil =>
    rw [runFrom, Program.runs_pure]
    constructor
    · rintro ⟨rfl, rfl⟩
      exact ⟨[], .none, rfl⟩
    · rintro ⟨results, ran, rfl⟩
      cases ran
      exact ⟨rfl, rfl⟩
  | cons step rest ih =>
    rw [runFrom, Program.runs_bind]
    constructor
    · rintro ⟨own, result, others, rfl, run, tail⟩
      dsimp only at tail
      cases action : result.action with
      | proceed =>
        rw [action] at tail
        obtain ⟨results, ran, rfl⟩ := ih.mp tail
        exact ⟨_, .proceeded run action ran, (conclude_cons delay error action results).symm⟩
      | stop =>
        rw [action] at tail
        obtain ⟨rfl, rfl⟩ := Program.runs_pure.mp tail
        refine ⟨[result], ?_, by simp [conclude, lastError, action]⟩
        rw [List.append_nil]
        exact .ended run (by simp [action])
      | requeue =>
        rw [action] at tail
        obtain ⟨rfl, rfl⟩ := Program.runs_pure.mp tail
        refine ⟨[result], ?_, by simp [conclude, action]⟩
        rw [List.append_nil]
        exact .ended run (by simp [action])
    · rintro ⟨results, ran, rfl⟩
      cases ran with
      | proceeded run proceeds ran =>
        refine ⟨_, _, _, rfl, run, ?_⟩
        simp only [proceeds]
        exact ih.mpr ⟨_, ran, conclude_cons delay error proceeds _⟩
      | @ended _ _ _ result run ends =>
        refine ⟨_, result, [], (List.append_nil _).symm, run, ?_⟩
        dsimp only
        cases action : result.action with
        | proceed => exact absurd action ends
        | stop => simp [conclude, lastError, action]
        | requeue => simp [conclude, action]

theorem ran_append (ran : Ran (first ++ last) events results) :
    (Ran first events results ∧ ∃ result ∈ results, result.action ≠ .proceed) ∨
      ∃ before after early late, events = before ++ after ∧ results = early ++ late ∧
        Ran first before early ∧ (∀ result ∈ early, result.action = .proceed) ∧
        Ran last after late := by
  induction first generalizing events results with
  | nil => exact Or.inr ⟨[], events, [], results, rfl, rfl, .none, by simp, ran⟩
  | cons step rest ih =>
    cases ran with
    | @proceeded _ _ own others result results run proceeds ran =>
      rcases ih ran with ⟨short, stopped, member, ends⟩ |
        ⟨before, after, early, late, rfl, rfl, head, each, tail⟩
      · exact Or.inl ⟨.proceeded run proceeds short, stopped, List.mem_cons_of_mem _ member, ends⟩
      · refine Or.inr ⟨own ++ before, after, result :: early, late, by simp, rfl,
          .proceeded run proceeds head, ?_, tail⟩
        intro r member
        rcases List.mem_cons.mp member with rfl | later
        · exact proceeds
        · exact each r later
    | @ended _ _ _ result run ends =>
      exact Or.inl ⟨.ended run ends, result, List.mem_singleton_self result, ends⟩

theorem Ran.length_of_proceed (ran : Ran steps events results)
    (each : ∀ result ∈ results, result.action = .proceed) : results.length = steps.length := by
  induction ran with
  | none => rfl
  | proceeded run proceeds after ih =>
    simp [ih fun r member => each r (List.mem_cons_of_mem _ member)]
  | ended run ends => exact absurd (each _ (List.mem_singleton_self _)) ends

theorem conclude_of_proceed (delay : Duration) (error : Option StepError)
    (each : ∀ result ∈ results, result.action = .proceed) :
    (conclude delay error results).schedule = .idle := by
  unfold conclude
  cases last : results.getLast? with
  | none => rfl
  | some result => simp [each result (List.mem_of_getLast? last)]

theorem Ran.exists_step_of_mem (ran : Ran steps events results) {e : Event} (member : e ∈ events) :
    ∃ step ∈ steps, ∃ own, ∃ result ∈ results, step.Runs own result ∧ e ∈ own := by
  induction ran with
  | none => simp at member
  | @proceeded step rest own others result results run proceeds after ih =>
    rcases List.mem_append.mp member with here | later
    · exact ⟨step, List.mem_cons_self, own, result, List.mem_cons_self, run, here⟩
    · obtain ⟨step, inSteps, own, result, inResults, run, inOwn⟩ := ih later
      exact ⟨step, List.mem_cons_of_mem _ inSteps, own, result, List.mem_cons_of_mem _ inResults,
        run, inOwn⟩
  | @ended step rest own result run ends =>
    exact ⟨step, List.mem_cons_self, own, result, List.mem_singleton_self result, run, member⟩

theorem Ran.exists_step_of_result (ran : Ran steps events results) (member : result ∈ results) :
    ∃ step ∈ steps, ∃ own, step.Runs own result ∧ ∀ e ∈ own, e ∈ events := by
  induction ran with
  | none => simp at member
  | @proceeded step rest own others first results run proceeds after ih =>
    rcases List.mem_cons.mp member with rfl | later
    · exact ⟨step, List.mem_cons_self, own, run, fun e => List.mem_append_left others⟩
    · obtain ⟨step, inSteps, mine, run, within⟩ := ih later
      exact ⟨step, List.mem_cons_of_mem _ inSteps, mine, run,
        fun e inMine => List.mem_append_right own (within e inMine)⟩
  | @ended step rest own only run ends =>
    obtain rfl := List.mem_singleton.mp member
    exact ⟨step, List.mem_cons_self, own, run, fun e => id⟩

theorem Ran.getLast_of_not_proceed (ran : Ran steps events results) (member : result ∈ results)
    (ends : result.action ≠ .proceed) : results.getLast? = some result := by
  induction ran with
  | none => simp at member
  | @proceeded step rest own others first results run proceeds after ih =>
    rcases List.mem_cons.mp member with rfl | later
    · exact absurd proceeds ends
    · simp [List.getLast?_cons, ih later]
  | ended run only =>
    obtain rfl := List.mem_singleton.mp member
    rfl

theorem lastError_of_getLast (error : Option StepError) {met : StepError}
    (last : results.getLast? = some result) (failed : result.error = some met) :
    lastError error results = some met := by
  obtain ⟨early, rfl⟩ := List.getLast?_eq_some_iff.mp last
  simp [lastError, failed]

theorem Ran.error_of_stop (delay : Duration) (error : Option StepError)
    (ran : Ran steps events results) (member : result ∈ results) (stops : result.action = .stop)
    {met : StepError} (failed : result.error = some met) :
    (conclude delay error results).error = some met := by
  have last := ran.getLast_of_not_proceed member (by simp [stops])
  simp [conclude, last, stops, lastError_of_getLast error last failed]

theorem Ran.unique (ran : Ran steps events results) {otherResults : List StepResult}
    (other : Ran steps others otherResults) (within : events <+: whole)
    (agrees : others <+: whole) : events = others ∧ results = otherResults := by
  induction ran generalizing others otherResults whole with
  | none =>
    cases other
    exact ⟨rfl, rfl⟩
  | @proceeded step rest own later result results run proceeds after ih =>
    have prefixOwn : own <+: whole := (List.prefix_append own later).trans within
    cases other with
    | @proceeded _ _ own' later' result' results' run' proceeds' after' =>
      obtain ⟨rfl, rfl⟩ :=
        run.unique run' prefixOwn ((List.prefix_append own' later').trans agrees)
      obtain ⟨tail, rfl⟩ := prefixOwn
      rw [List.prefix_append_right_inj] at within agrees
      obtain ⟨rfl, rfl⟩ := ih after' within agrees
      exact ⟨rfl, rfl⟩
    | ended run' ends' =>
      obtain ⟨rfl, rfl⟩ := run.unique run' prefixOwn agrees
      exact absurd proceeds ends'
  | @ended step rest own result run ends =>
    cases other with
    | @proceeded _ _ own' later' result' results' run' proceeds' after' =>
      obtain ⟨rfl, rfl⟩ := run.unique run' within ((List.prefix_append own' later').trans agrees)
      exact absurd proceeds' ends
    | ended run' ends' =>
      obtain ⟨rfl, rfl⟩ := run.unique run' within agrees
      exact ⟨rfl, rfl⟩

end AgentOperator.Pass

namespace AgentOperator.Instance
variable {i : Instance} {settings : Settings} {policy : RetryPolicy} {events : List Event}
  {outcome : Outcome}

/-- A pass leaves an instance alone that has lost its marker while being deleted. Over any other it
runs the steps, with their results, and then writes a status about the error that they come to. -/
theorem pass_results (run : (i.pass settings policy).Runs events outcome) :
    (i.metadata.isDeleting = true ∧ i.metadata.hasMarker Conventions.cleanupMarker = false ∧
      events = [] ∧ outcome = ⟨.idle, none⟩) ∨
    ∃ body status results written, events = body ++ status ∧
      Pass.Ran ((i.steps settings).map Step.run) body results ∧
      ((i.statusWriter settings policy).run
        ((Pass.conclude settings.requeueDelay none results).error.map StepError.message)).Runs
          status written ∧
      outcome = i.conclude (Pass.conclude settings.requeueDelay none results) written := by
  unfold pass at run
  split at run
  · next alone =>
    obtain ⟨deleting, bare⟩ := Bool.and_eq_true_iff.mp alone
    exact Or.inl ⟨deleting, by simpa using bare, Program.runs_pure.mp run⟩
  · right
    obtain ⟨body, reached, rest, rfl, steps, tail⟩ := Program.runs_bind.mp run
    obtain ⟨status, written, nothing, rfl, writing, finish⟩ := Program.runs_bind.mp tail
    obtain ⟨rfl, rfl⟩ := Program.runs_pure.mp finish
    obtain ⟨results, ran, rfl⟩ := Pass.runs_runFrom_iff.mp steps
    exact ⟨body, status, results, written, by simp, ran, writing, rfl⟩

end AgentOperator.Instance
