import AgentOperator.Proofs.StatusRace
import AgentOperator.Proofs.StepResults

/-!
What a pass counts. A counter is one series of the metrics, and a measurement adds to at most one of
them. Two things that a pass does are due to be counted: a secret that it applied and a status that
it wrote. Every part of a pass counts what is due to it in that order and nothing else, whatever the
store answers: a refused apply, a status write that lost a race and a secret that was deleted by the
issuer itself leave no trace.
-/
namespace AgentOperator

inductive Counter where
  | reconciliations (kind : String)
  | reconciliationErrors (kind : String)
  | requeues (reason : String)
  | statusUpdates
  | rotations
  | deletions (reason : String)
  deriving DecidableEq

def Measurement.counter? : Measurement → Option Counter
  | .reconciliation kind => some (.reconciliations kind)
  | .reconciliationError kind => some (.reconciliationErrors kind)
  | .requeue reason => some (.requeues reason)
  | .statusUpdate => some .statusUpdates
  | .rotation => some .rotations
  | .deletion reason => some (.deletions reason)
  | .duration _ _ | .statusSkipped => none

namespace Counter

/-- A label that was never counted has no series, and its count is none. -/
def value (m : Metrics) : Counter → Nat
  | .reconciliations kind => (Fields.get? m.reconciliations kind).getD 0
  | .reconciliationErrors kind => (Fields.get? m.reconciliationErrors kind).getD 0
  | .requeues reason => (Fields.get? m.requeues reason).getD 0
  | .statusUpdates => m.statusUpdates
  | .rotations => m.rotations
  | .deletions reason => (Fields.get? m.deletions reason).getD 0

theorem getD_bump (counts : Fields Nat) (label other : String) :
    (Fields.get? (Metrics.bump counts label) other).getD 0 =
      (Fields.get? counts other).getD 0 + if label = other then 1 else 0 := by
  rw [Metrics.bump, Fields.update, Fields.get?_insert]
  by_cases same : label = other
  · simp [same]
  · simp [same, Ne.symm same]

theorem value_add (before : Metrics) (m : Measurement) (c : Counter) :
    c.value (before.add m) = c.value before + if m.counter? = some c then 1 else 0 := by
  cases m <;> cases c <;> simp [value, Metrics.add, Measurement.counter?, getD_bump]

theorem value_addAll (before : Metrics) (log : List Measurement) (c : Counter) :
    c.value (before.addAll log) =
      c.value before + (log.filterMap Measurement.counter?).count c := by
  induction log generalizing before with
  | nil => rfl
  | cons m log ih =>
    have step := ih (before.add m)
    rw [value_add] at step
    rw [Metrics.addAll, List.foldl_cons, List.filterMap_cons]
    change c.value ((before.add m).addAll log) = _
    rw [step]
    cases counts : m.counter? with
    | none => simp
    | some other =>
      simp only [Option.some.injEq, List.count_cons, beq_iff_eq]
      omega

end Counter

namespace Event

def measurement? : Event → Option Measurement
  | .measure m => some m
  | _ => none

def counted? (e : Event) : Option Counter := e.measurement?.bind Measurement.counter?

variable {reason : Option DeleteReason} {first last events : List Event} {e : Event}

def issued : Event → Bool
  | .call (.apply r _ _) (.ok _) => r.kind = .secret
  | _ => false

def removed : Event → Bool
  | .call (.delete slot) (.ok _) => slot.kind = .secret
  | _ => false

/-- Where an event is to be counted, among the events of one who deletes secrets for this reason if
for any. -/
def due? (reason : Option DeleteReason) (e : Event) : Option Counter :=
  if e.wrote then some .statusUpdates
  else if e.issued then some .rotations
  else if e.removed then reason.map fun reason => .deletions reason.name
  else none

theorem not_wrote_of_issued (issued : e.issued = true) : e.wrote = false := by
  unfold Event.issued at issued
  split at issued
  · rfl
  · cases issued

theorem not_due_of_removed (removed : e.removed = true) : e.wrote = false ∧ e.issued = false := by
  unfold Event.removed at removed
  split at removed
  · exact ⟨rfl, rfl⟩
  · cases removed

theorem due_statusUpdates : e.due? reason = some .statusUpdates ↔ e.wrote = true := by
  unfold due?
  split
  · next wrote => simp [wrote]
  · next unwritten => split <;> simp [unwritten]

theorem due_rotations : e.due? reason = some .rotations ↔ e.issued = true := by
  unfold due?
  by_cases issued : e.issued
  · simp [issued, not_wrote_of_issued issued]
  · cases e.wrote <;> cases e.removed <;> simp [issued]

theorem due_deletions {label : String} : e.due? reason = some (.deletions label) ↔
    reason.map DeleteReason.name = some label ∧ e.removed = true := by
  unfold due?
  by_cases removed : e.removed
  · simp [removed, not_due_of_removed removed]
  · cases e.wrote <;> cases e.issued <;> simp [removed]

/-- Exactly what is due is counted, in the order in which it is done. -/
def Accounted (reason : Option DeleteReason) (events : List Event) : Prop :=
  events.filterMap counted? = events.filterMap (due? reason)

theorem Accounted.append (head : Accounted reason first) (tail : Accounted reason last) :
    Accounted reason (first ++ last) := by
  rw [Accounted, List.filterMap_append, List.filterMap_append, head, tail]

def Idle (e : Event) : Prop :=
  e.measurement? = none ∧ e.wrote = false ∧ e.issued = false ∧ e.removed = false

theorem idle_clock (moment : Moment) : (clock moment).Idle := ⟨rfl, rfl, rfl, rfl⟩

theorem idle_sleep (span : Duration) : (sleep span).Idle := ⟨rfl, rfl, rfl, rfl⟩

theorem idle_get (slot : Slot) (answer : Except StoreError Object) :
    (call (.get slot) answer).Idle := ⟨rfl, rfl, rfl, rfl⟩

theorem Idle.counted (idle : Idle e) : e.counted? = none := by
  rw [counted?, idle.1, Option.bind_none]

theorem Idle.due (idle : Idle e) : e.due? reason = none := by
  obtain ⟨_, unwritten, unissued, kept⟩ := idle
  simp [due?, unwritten, unissued, kept]

theorem Accounted.cons (idle : e.Idle) (rest : Accounted reason events) :
    Accounted reason (e :: events) := by
  rw [Accounted, List.filterMap_cons_none idle.counted, List.filterMap_cons_none idle.due, rest]

theorem accounted_of_idle (idle : ∀ e ∈ events, e.Idle) : Accounted reason events := by
  induction events with
  | nil => rfl
  | cons e events ih =>
    obtain ⟨here, later⟩ := List.forall_mem_cons.mp idle
    exact (ih later).cons here

end Event

open Event (Accounted Idle accounted_of_idle)

theorem ApplyStep.accounted {s : ApplyStep} {events : List Event} {result : StepResult}
    (plain : s.resource.kind ≠ .secret) (run : s.run.Runs events result) :
    Accounted none events := by
  rcases ApplyStep.runs_iff.mp run with ⟨_, rfl, _⟩ | ⟨r, answer, desired, rfl, _⟩
  · rfl
  · have kind : r.kind = s.resource.kind :=
      ApplyStep.sent_as_given Resource.kind (fun _ _ => rfl) desired
    cases answer <;> simp [Accounted, Event.counted?, Event.measurement?, Event.due?, Event.wrote,
      Event.issued, Event.removed, kind, plain]

theorem DeleteStep.accounted {s : DeleteStep} {events : List Event} {result : StepResult}
    (run : s.run.Runs events result) : Accounted none events := by
  obtain ⟨answer, rfl, _⟩ := DeleteStep.runs_iff.mp run
  cases answer <;> simp [Accounted, Event.counted?, Event.measurement?, Event.due?, Event.wrote,
    Event.issued, Event.removed]

theorem ProvisionStep.accounted {s : ProvisionStep} {events : List Event} {result : StepResult}
    (run : s.run.Runs events result) : Accounted none events := by
  rcases ProvisionStep.runs_cases run with ⟨answer, rfl, _⟩ | ⟨text, answer, rfl, _⟩
  · exact .cons (Event.idle_get _ _) rfl
  · exact .cons (Event.idle_get _ _) (.cons ⟨rfl, rfl, rfl, rfl⟩ rfl)

theorem MarkerStep.accounted {s : MarkerStep} {events : List Event} {result : StepResult}
    (run : s.run.Runs events result) : Accounted none events := by
  rcases MarkerStep.runs_cases run with
    ⟨error, rfl⟩ | ⟨current, rfl, _⟩ | ⟨current, changed, answer, _, rfl, _⟩
  · exact .cons (Event.idle_get _ _) rfl
  · exact .cons (Event.idle_get _ _) rfl
  · exact .cons (Event.idle_get _ _) (.cons ⟨rfl, rfl, rfl, rfl⟩ rfl)

theorem Program.idle_of_poll {slot : Slot} {window : PollWindow} {events : List Event}
    {value : Except StoreError (Option Object)} (run : (poll slot window).Runs events value) :
    ∀ e ∈ events, e.Idle := by
  obtain ⟨start, looks, rfl, looked⟩ := looked_of_poll run
  clear run
  refine List.forall_mem_cons.mpr ⟨Event.idle_clock start, ?_⟩
  induction looked with
  | spent => simp
  | found object => simp [Event.idle_get]
  | failed worse => simp [Event.idle_get]
  | late text moment => simp [Event.idle_get, Event.idle_clock]
  | again text moment span rest ih =>
    simpa [Event.idle_get, Event.idle_clock, Event.idle_sleep] using ih

namespace CredentialStep
variable {s : CredentialStep} {events : List Event} {result : StepResult}

theorem Issuance.accounted {now : Timestamp} (issuance : s.Issuance now events result) :
    Accounted none events := by
  cases issuance with
  | ungranted source => exact .cons ⟨rfl, rfl, rfl, rfl⟩ rfl
  | unowned lone => exact .cons ⟨rfl, rfl, rfl, rfl⟩ rfl
  | refused error desired =>
    exact .cons ⟨rfl, rfl, rfl, rfl⟩ (.cons ⟨rfl, rfl, rfl, rfl⟩ rfl)
  | @issued token r stored desired =>
    refine .cons ⟨rfl, rfl, rfl, rfl⟩ ?_
    have secret : r.kind = .secret :=
      ApplyStep.sent_as_given Resource.kind (fun _ _ => rfl) desired
    have due : (Event.call (.apply r Conventions.fieldManager true) (.ok stored)).due? none =
        some .rotations := by simp [Event.due?, Event.wrote, Event.issued, secret]
    show [Counter.rotations] = _
    rw [List.filterMap_cons, due]
    rfl

theorem accounted (run : s.run.Runs events result) : Accounted none events := by
  cases did_of_run run with
  | removed unwanted run => exact DeleteStep.accounted run
  | refused wanted waited => exact accounted_of_idle (Program.idle_of_poll waited)
  | missed wanted waited => exact accounted_of_idle (Program.idle_of_poll waited)
  | unread wanted waited looked =>
    exact (accounted_of_idle (Program.idle_of_poll waited)).append
      (.cons (Event.idle_clock _) (accounted_of_idle (Program.idle_of_poll looked)))
  | kept wanted waited looked good =>
    exact (accounted_of_idle (Program.idle_of_poll waited)).append
      (.cons (Event.idle_clock _) (accounted_of_idle (Program.idle_of_poll looked)))
  | renewed wanted waited looked due issuance =>
    exact (accounted_of_idle (Program.idle_of_poll waited)).append
      (.cons (Event.idle_clock _)
        ((accounted_of_idle (Program.idle_of_poll looked)).append issuance.accounted))

end CredentialStep

namespace Step
variable {step : Step} {events : List Event} {result : StepResult}

def Plain : Step → Prop
  | .apply s => s.resource.kind ≠ .secret
  | _ => True

theorem accounted (plain : step.Plain) (run : step.run.Runs events result) :
    Accounted none events := by
  cases step with
  | apply s => exact ApplyStep.accounted plain run
  | delete s => exact DeleteStep.accounted run
  | provision s => exact ProvisionStep.accounted run
  | credential s => exact CredentialStep.accounted run
  | marker s => exact MarkerStep.accounted run

end Step

namespace StatusWriter
variable {w : StatusWriter} {passError : Option String} {events : List Event}
  {result : Except StoreError StatusWrite}

def dues : Except StoreError StatusWrite → List Counter
  | .ok .written => [.statusUpdates]
  | _ => []

theorem attempt_counts (run : (w.attempt passError).Runs events result) :
    events.filterMap Event.counted? = [] ∧ events.filterMap (Event.due? none) = dues result := by
  rcases attempt_cases run with ⟨error, rfl, ⟨_, rfl⟩ | ⟨_, rfl⟩⟩ | ⟨read, rfl, _, rfl⟩ |
    ⟨read, workload, moment, rfl, _, _, rfl⟩ | ⟨read, workload, moment, answer, rfl, _, _, rfl⟩
  · exact ⟨rfl, rfl⟩
  · exact ⟨rfl, rfl⟩
  · exact ⟨rfl, rfl⟩
  · exact ⟨rfl, rfl⟩
  · cases answer <;> exact ⟨rfl, rfl⟩

/-- Attempts are not counted one by one: all but the last have lost a race. -/
theorem tried_counts {tries : List (List Event)}
    (tried : RetryPolicy.Tried StoreError.isConflict (w.attempt passError) tries events result) :
    events.filterMap Event.counted? = [] ∧ events.filterMap (Event.due? none) = dues result := by
  induction tried with
  | last run => exact attempt_counts run
  | again run worth delay rest ih =>
    obtain ⟨uncounted, nothing⟩ := attempt_counts run
    obtain ⟨later, due⟩ := ih
    rw [List.filterMap_append, List.filterMap_append, uncounted, nothing]
    exact ⟨later, due⟩

theorem accounted (run : (w.run passError).Runs events result) : Accounted none events := by
  obtain ⟨body, rfl, attempts⟩ := attempted_then_noted run
  obtain ⟨tries, tried, _⟩ := RetryPolicy.exists_tries attempts
  obtain ⟨uncounted, due⟩ := tried_counts tried
  rw [Accounted, List.filterMap_append, List.filterMap_append, uncounted, due]
  rcases result with error | _ | _ | _ <;> rfl

end StatusWriter

theorem Pass.Ran.accounted {steps : List (Program StepResult)} {events : List Event}
    {results : List StepResult} (ran : Pass.Ran steps events results)
    (each : ∀ step ∈ steps, ∀ own result, step.Runs own result → Accounted Option.none own) :
    Accounted Option.none events := by
  induction ran with
  | none => rfl
  | proceeded run proceeds after ih =>
    exact (each _ List.mem_cons_self _ _ run).append
      (ih fun step later => each step (List.mem_cons_of_mem _ later))
  | ended run ends => exact each _ List.mem_cons_self _ _ run

namespace Instance
variable {i : Instance} {settings : Settings} {policy : RetryPolicy} {events : List Event}
  {outcome : Outcome}

theorem plain_steps (i : Instance) (settings : Settings) :
    ∀ step ∈ i.steps settings, step.Plain := by
  unfold Instance.steps cleanupSteps applySteps
  cases i.metadata.isDeleting <;> cases i.spec <;>
    simp [Step.Plain, applyStep, deleteStep, Manifest.ServiceAccount.resource,
      Manifest.ClusterRole.resource, Manifest.ClusterRoleBinding.resource,
      Manifest.ConfigMap.resource, Manifest.Service.resource, Manifest.Workload.resource]

theorem accounted_pass (run : (i.pass settings policy).Runs events outcome) :
    Accounted none events := by
  rcases pass_results run with
    ⟨_, _, rfl, _⟩ | ⟨body, status, results, written, rfl, ran, writes, _⟩
  · rfl
  · refine (ran.accounted ?_).append (StatusWriter.accounted writes)
    intro program inSteps own result run
    obtain ⟨step, member, rfl⟩ := List.mem_map.mp inSteps
    exact Step.accounted (i.plain_steps settings step member) run

end Instance
end AgentOperator
