import Mathlib.Data.List.Forall2
import AgentOperator.Proofs.StepResults

/-!
A pass against what its steps would report. Given a report of every step, those up to and including
the first that does not proceed are what runs, and the outcome is read off them. Running two lists
of steps in a row is running the first, and the second if the first came to its end.
-/
namespace AgentOperator

/-- What a step would do, and how it would end. -/
structure StepReport where
  events : List Event
  result : StepResult

def StepReport.proceeds (r : StepReport) : Bool := r.result.action = .proceed

def StepReport.Of (r : StepReport) (step : Program StepResult) : Prop := step.Runs r.events r.result

theorem Program.exists_runs {α : Type} (p : Program α) : ∃ events value, p.Runs events value := by
  induction p with
  | done value => exact ⟨[], value, .done value⟩
  | call c next ih =>
    obtain ⟨events, value, run⟩ := ih (.error (.request ""))
    exact ⟨_, value, .call _ run⟩
  | clock next ih =>
    obtain ⟨events, value, run⟩ := ih ⟨default, default⟩
    exact ⟨_, value, .clock _ run⟩
  | sleep span next ih =>
    obtain ⟨events, value, run⟩ := ih
    exact ⟨_, value, .sleep span run⟩
  | measure m next ih =>
    obtain ⟨events, value, run⟩ := ih
    exact ⟨_, value, .measure m run⟩

namespace Outcome

def behind (o : Outcome) (error : Option StepError) : Outcome :=
  match o.schedule with
  | .after _ => o
  | .idle | .soon => { o with error := o.error.or error }

theorem behind_none (o : Outcome) : o.behind none = o := by
  obtain ⟨schedule, error⟩ := o
  cases schedule <;> simp [behind]

theorem behind_behind (o : Outcome) (later earlier : Option StepError) :
    (o.behind later).behind earlier = o.behind (later.or earlier) := by
  obtain ⟨schedule, error⟩ := o
  cases schedule <;> simp [behind, Option.or_assoc]

end Outcome

namespace Pass
variable {steps first last : List (Program StepResult)} {events : List Event}
  {results : List StepResult} {report : StepReport} {reports : List StepReport}
  {delay : Duration} {outcome : Outcome}

def executed (reports : List StepReport) : List StepReport :=
  reports.takeWhile StepReport.proceeds ++ (reports.dropWhile StepReport.proceeds).take 1

def lastReported (reports : List StepReport) : Option StepError :=
  (reports.filterMap (·.result.error)).getLast?

def ending? (reports : List StepReport) : Option Action :=
  (reports.find? (!·.proceeds)).map (·.result.action)

/-- What ends the steps decides when the pass runs again, and whether the errors of those that ran
count. -/
def reference (delay : Duration) (reports : List StepReport) : Outcome :=
  match ending? reports with
  | none | some .proceed => ⟨.idle, lastReported (executed reports)⟩
  | some .stop => ⟨.soon, lastReported (executed reports)⟩
  | some .requeue => ⟨.after delay, none⟩

theorem executed_cons_of_proceeds (proceeds : report.proceeds = true) (reports : List StepReport) :
    executed (report :: reports) = report :: executed reports := by
  simp [executed, proceeds]

theorem executed_cons_of_ends (ends : report.proceeds = false) (reports : List StepReport) :
    executed (report :: reports) = [report] := by
  simp [executed, ends]

theorem ran_of_reports (would : List.Forall₂ (fun step r => r.Of step) steps reports) :
    Ran steps ((executed reports).flatMap StepReport.events)
      ((executed reports).map StepReport.result) := by
  induction would with
  | nil => exact .none
  | @cons step report rest reports head tail ih =>
    cases proceeds : report.proceeds with
    | true =>
      rw [executed_cons_of_proceeds proceeds]
      exact .proceeded head (by simpa [StepReport.proceeds] using proceeds) ih
    | false =>
      rw [executed_cons_of_ends proceeds]
      simpa using Ran.ended head (by simpa [StepReport.proceeds] using proceeds)

theorem exists_reports_of_ran (ran : Ran steps events results) :
    ∃ reports, List.Forall₂ (fun step r => StepReport.Of r step) steps reports ∧
      events = (executed reports).flatMap StepReport.events ∧
      results = (executed reports).map StepReport.result := by
  induction ran with
  | none => exact ⟨[], .nil, rfl, rfl⟩
  | @proceeded step rest own others result results run proceeds after ih =>
    obtain ⟨reports, would, rfl, rfl⟩ := ih
    have head : (StepReport.mk own result).proceeds = true := by
      simp [StepReport.proceeds, proceeds]
    refine ⟨⟨own, result⟩ :: reports, .cons run would, ?_, ?_⟩ <;>
      simp [executed_cons_of_proceeds head]
  | @ended step rest own result run ends =>
    -- what is left does not run, but each of its steps would report something
    have others : ∃ reports, List.Forall₂ (fun step r => StepReport.Of r step) rest reports := by
      clear run
      induction rest with
      | nil => exact ⟨[], .nil⟩
      | cons next rest ih =>
        obtain ⟨reports, would⟩ := ih
        obtain ⟨events, value, run⟩ := next.exists_runs
        exact ⟨⟨events, value⟩ :: reports, .cons run would⟩
    obtain ⟨reports, would⟩ := others
    have head : (StepReport.mk own result).proceeds = false := by simp [StepReport.proceeds, ends]
    refine ⟨⟨own, result⟩ :: reports, .cons run would, ?_, ?_⟩ <;>
      simp [executed_cons_of_ends head]

theorem lastReported_cons (report : StepReport) (reports : List StepReport) :
    lastReported (report :: reports) = (lastReported reports).or report.result.error := by
  unfold lastReported
  cases failed : report.result.error with
  | none => simp [failed]
  | some error =>
    simp only [List.filterMap_cons, failed, List.getLast?_cons]
    cases (reports.filterMap (·.result.error)).getLast? <;> rfl

theorem reference_cons_of_proceeds (proceeds : report.proceeds = true) (delay : Duration)
    (reports : List StepReport) :
    reference delay (report :: reports) = (reference delay reports).behind report.result.error := by
  have ending : ending? (report :: reports) = ending? reports := by simp [ending?, proceeds]
  unfold reference
  rw [ending, executed_cons_of_proceeds proceeds, lastReported_cons]
  split <;> rfl

theorem conclude_executed (delay : Duration) (error : Option StepError)
    (reports : List StepReport) :
    conclude delay error ((executed reports).map StepReport.result) =
      (reference delay reports).behind error := by
  induction reports generalizing error with
  | nil => rfl
  | cons report reports ih =>
    cases proceeds : report.proceeds with
    | true =>
      have action : report.result.action = .proceed := by simpa [StepReport.proceeds] using proceeds
      rw [executed_cons_of_proceeds proceeds, List.map_cons, conclude_cons delay error action, ih,
        reference_cons_of_proceeds proceeds, Outcome.behind_behind]
    | false =>
      have ending : ending? (report :: reports) = some report.result.action := by
        simp [ending?, proceeds]
      unfold reference
      rw [ending, executed_cons_of_ends proceeds]
      cases action : report.result.action with
      | proceed => simp [StepReport.proceeds, action] at proceeds
      | stop => simp [conclude, lastError, action, Outcome.behind, lastReported]
      | requeue => simp [conclude, action, Outcome.behind]

theorem runFrom_eq (delay : Duration) (error : Option StepError)
    (steps : List (Program StepResult)) :
    runFrom delay error steps = (do return (← run delay steps).behind error) := by
  unfold run
  induction steps generalizing error with
  | nil => rfl
  | cons step rest ih =>
    simp only [runFrom, bind_assoc]
    congr 1
    funext result
    cases result.action with
    | proceed =>
      dsimp only
      rw [ih, ih (result.error.or none)]
      simp [Outcome.behind_behind]
    | stop => simp [Outcome.behind]
    | requeue => simp [Outcome.behind]

/-- A pass does what its steps would report up to the first that does not proceed, and its outcome
is the reference's. Steps behind others run if these come to their end, and what these met stays the
error unless it is replaced. -/
theorem run_follows_reference (delay : Duration) (steps : List (Program StepResult)) :
    (∀ events outcome, (run delay steps).Runs events outcome ↔
      ∃ reports, List.Forall₂ (fun step r => StepReport.Of r step) steps reports ∧
        events = (executed reports).flatMap StepReport.events ∧
        outcome = reference delay reports) ∧
    ∀ more, run delay (steps ++ more) = (do
      let outcome ← run delay steps
      match outcome.schedule with
      | .idle => return (← run delay more).behind outcome.error
      | .soon | .after _ => return outcome) := by
  constructor
  · intro events outcome
    rw [run, runs_runFrom_iff]
    constructor
    · rintro ⟨results, ran, rfl⟩
      obtain ⟨reports, would, rfl, rfl⟩ := exists_reports_of_ran ran
      refine ⟨reports, would, rfl, ?_⟩
      rw [conclude_executed, Outcome.behind_none]
    · rintro ⟨reports, would, rfl, rfl⟩
      refine ⟨_, ran_of_reports would, ?_⟩
      rw [conclude_executed, Outcome.behind_none]
  · intro more
    rw [run, runFrom_append]
    congr 1
    funext outcome
    cases outcome.schedule with
    | idle => exact runFrom_eq delay outcome.error more
    | soon => rfl
    | after span => rfl

end Pass
end AgentOperator
