import AgentOperator.Proofs.ExpiryRace
import AgentOperator.Proofs.FailureHistory
import AgentOperator.Proofs.PassMetrics
import AgentOperator.Proofs.WorldTrace

/-!
What the metrics say about all turns of one process. A turn counts itself when it begins, what its
pass or its check does, and at last why the object is to be looked at again; the loop's own part
after a failed turn counts the failure. The counters are sums, so it does not matter in which order
the workers of the loops come to measure.
-/
namespace AgentOperator

theorem Kind.name_inj {a b : Kind} : a.name = b.name ↔ a = b := ⟨name_injective, congrArg name⟩

def Event.moment? : Event → Option Moment
  | .clock moment => some moment
  | _ => none

namespace Instance
variable {i : Instance} {settings : Settings} {policy : RetryPolicy} {outcome : Outcome}
  {passed rest events : List Event} {start : Moment} {result : Except TurnError Requeue}

def reasons (outcome : Outcome) : List String :=
  if outcome.error.isNone then outcome.schedule.requeueReason?.toList else []

def announce (i : Instance) (settings : Settings) (outcome : Outcome) :
    Program (Except TurnError Requeue) := do
  if outcome.error.isNone then
    match outcome.schedule.requeueReason? with
    | some reason => Program.record (.requeue reason)
    | none => pure ()
  return i.conclusion settings outcome

theorem runs_announce_iff : (i.announce settings outcome).Runs events result ↔
    events = (reasons outcome).map (fun reason => .measure (.requeue reason)) ∧
      result = i.conclusion settings outcome := by
  unfold announce reasons
  cases outcome.error.isNone
  · exact Program.runs_pure
  · cases outcome.schedule.requeueReason? with
    | none => exact Program.runs_pure
    | some reason =>
      rw [if_pos rfl, if_pos rfl]
      dsimp only
      rw [Program.record_bind, Program.runs_measure]
      simp

/-- The events behind a pass: its time is taken, and a clean pass that asks to be run again is
counted by its reason. -/
def aftermath (i : Instance) (start finish : Moment) (outcome : Outcome) : List Event :=
  .clock finish ::
    .measure (.duration i.kind.name
      (Duration.toSeconds ⟨finish.elapsed.nanos - start.elapsed.nanos⟩)) ::
    (reasons outcome).map fun reason => .measure (.requeue reason)

theorem counted_aftermath (i : Instance) (start finish : Moment) (outcome : Outcome) :
    (i.aftermath start finish outcome).filterMap Event.counted? =
      (reasons outcome).map .requeues := by
  show List.filterMap Event.counted? ((reasons outcome).map _) = _
  rw [List.filterMap_map]
  exact congrFun List.filterMap_eq_map _

theorem due_aftermath (i : Instance) (start finish : Moment) (outcome : Outcome) :
    (i.aftermath start finish outcome).filterMap (Event.due? none) = [] := by
  show List.filterMap (Event.due? none) ((reasons outcome).map _) = []
  rw [List.filterMap_map]
  exact List.filterMap_eq_nil_iff.mpr fun reason _ => rfl

theorem reconcile_runs_iff : (i.reconcile settings policy).Runs events result ↔
    ∃ start passed outcome finish, events = .measure (.reconciliation i.kind.name) ::
        .clock start :: (passed ++ i.aftermath start finish outcome) ∧
      (i.pass settings policy).Runs passed outcome ∧ result = i.conclusion settings outcome := by
  constructor
  · intro run
    rw [reconcile, Program.record_bind, Program.runs_measure] at run
    obtain ⟨counted, rfl, run⟩ := run
    rw [Program.now_bind, Program.runs_clock] at run
    obtain ⟨start, timed, rfl, run⟩ := run
    obtain ⟨passed, outcome, last, rfl, pass, tail⟩ := Program.runs_bind.mp run
    rw [Program.now_bind, Program.runs_clock] at tail
    obtain ⟨finish, measured, rfl, tail⟩ := tail
    dsimp only at tail
    rw [Program.record_bind, Program.runs_measure] at tail
    obtain ⟨requeued, rfl, tail⟩ := tail
    obtain ⟨rfl, concluded⟩ := runs_announce_iff.mp tail
    exact ⟨start, passed, outcome, finish, rfl, pass, concluded⟩
  · rintro ⟨start, passed, outcome, finish, rfl, pass, rfl⟩
    refine .measure _ (.clock start ?_)
    show (i.pass settings policy >>= fun outcome => _).Runs _ _
    refine Program.runs_bind.mpr ⟨passed, outcome, _, rfl, pass, .clock finish (.measure _ ?_)⟩
    exact runs_announce_iff.mpr ⟨rfl, rfl⟩

theorem rest_of_reconcile
    (run : (i.reconcile settings policy).Runs
      (.measure (.reconciliation i.kind.name) :: .clock start :: (passed ++ rest)) result)
    (ran : (i.pass settings policy).Runs passed outcome) :
    result = i.conclusion settings outcome ∧
      rest.filterMap Event.counted? = (reasons outcome).map .requeues ∧
      rest.filterMap (Event.due? none) = [] := by
  obtain ⟨start', passed', outcome', finish, same, ran', concluded⟩ := reconcile_runs_iff.mp run
  have tail := (List.cons.inj (List.cons.inj same).2).2
  obtain ⟨rfl, rfl⟩ : passed = passed' ∧ outcome = outcome' :=
    ran.unique ran' (List.prefix_append passed rest) (tail ▸ List.prefix_append passed' _)
  obtain rfl := List.append_cancel_left tail
  exact ⟨concluded, i.counted_aftermath start' finish outcome,
    i.due_aftermath start' finish outcome⟩

end Instance

namespace Secret
variable {s : Secret} {settings : Settings} {events : List Event}
  {result : Except TurnError Requeue}

def deleteReason? (s : Secret) (settings : Settings) (events : List Event) : Option DeleteReason :=
  match (events.findSome? Event.moment?).map fun moment =>
      Expiry.decide s.metadata.annotations moment.wall settings.refreshInterval with
  | some (.delete reason) => some reason
  | _ => none

theorem accounted_reconcile (run : (s.reconcile settings).Runs events result) :
    Event.Accounted (s.deleteReason? settings events) events := by
  cases checked_of_reconcile run with
  | left moment leaving => exact .cons (Event.idle_clock _) rfl
  | kept decided => exact .cons (Event.idle_clock _) rfl
  | @deleted moment reason decided =>
    have because (rest : List Event) :
        s.deleteReason? settings (.clock moment :: rest) = some reason := by
      simp [deleteReason?, Event.moment?, decided]
    rw [because]
    rfl
  | gone text decided => exact .cons (Event.idle_clock _) (.cons ⟨rfl, rfl, rfl, rfl⟩ rfl)
  | refused worse decided => exact .cons (Event.idle_clock _) (.cons ⟨rfl, rfl, rfl, rfl⟩ rfl)

end Secret

namespace Subject
variable {subject : Subject} {settings : Settings} {policy : RetryPolicy} {events : List Event}
  {result : Except TurnError Requeue}

/-- What a turn did, how it ended, and when the pass in it was to be run again if it had one. -/
inductive Serves (settings : Settings) (policy : RetryPolicy) :
    Subject → List Event → Option Schedule → Except TurnError Requeue → Prop where
  | pass {i : Instance} {start : Moment} {passed rest : List Event} {outcome : Outcome}
      {result : Except TurnError Requeue}
      (run : (i.reconcile settings policy).Runs
        (.measure (.reconciliation i.kind.name) :: .clock start :: (passed ++ rest)) result)
      (ran : (i.pass settings policy).Runs passed outcome) :
      Serves settings policy (.managed i)
        (.measure (.reconciliation i.kind.name) :: .clock start :: (passed ++ rest))
        (some outcome.schedule) result
  | check {s : Secret} {events : List Event} {result : Except TurnError Requeue}
      (run : (s.reconcile settings).Runs events result) :
      Serves settings policy (.credential s) events none result

theorem exists_serves (run : (subject.turn settings policy).Runs events result) :
    ∃ schedule, Serves settings policy subject events schedule result := by
  cases subject with
  | managed i =>
    obtain ⟨start, passed, outcome, finish, rfl, ran, _⟩ := Instance.reconcile_runs_iff.mp run
    exact ⟨_, .pass run ran⟩
  | credential s => exact ⟨none, .check run⟩

end Subject

/-- A turn of a control loop with all that it did and the answers that it got. -/
structure RecordedTurn (settings : Settings) (policy : RetryPolicy) extends Turn where
  events : List Event
  /-- When the pass was to be run again, if the turn had one. -/
  schedule? : Option Schedule
  /-- What the loop knew of failures when the turn had ended. -/
  failures : FailureTable
  serves : subject.Serves settings policy events schedule? result

namespace RecordedTurn
variable {settings : Settings} {policy : RetryPolicy}

/-- What is measured in the turn and then by the loop itself. -/
def measured (t : RecordedTurn settings policy) : List Measurement :=
  t.events.filterMap Event.measurement? ++
    (t.subject.settle settings t.failures t.result).2.2

def requeueReason? (t : RecordedTurn settings policy) : Option String :=
  match t.result, t.schedule? with
  | .error _, _ => some "error-backoff"
  | .ok _, some .soon => some "step-stop"
  | .ok _, some (.after _) => some "step-requeue"
  | .ok _, some .idle | .ok _, none => none

def deleteReason? (t : RecordedTurn settings policy) : Option DeleteReason :=
  match t.subject with
  | .managed _ => none
  | .credential s => s.deleteReason? settings t.events

def opening (t : RecordedTurn settings policy) : List Counter :=
  match t.subject with
  | .managed i => [.reconciliations i.kind.name]
  | .credential _ => []

def closing (t : RecordedTurn settings policy) : List Counter :=
  (if Turn.failed t.result then [.reconciliationErrors t.subject.kind.name] else []) ++
    t.requeueReason?.toList.map .requeues

def dues (t : RecordedTurn settings policy) : List Counter :=
  t.opening ++ t.events.filterMap (Event.due? t.deleteReason?) ++ t.closing

theorem counters_measured (t : RecordedTurn settings policy) :
    t.measured.filterMap Measurement.counter? =
      t.events.filterMap Event.counted? ++
        (t.subject.settle settings t.failures t.result).2.2.filterMap Measurement.counter? := by
  rw [measured, List.filterMap_append, List.filterMap_filterMap]
  rfl

theorem counters_eq_dues (t : RecordedTurn settings policy) :
    t.measured.filterMap Measurement.counter? = t.dues := by
  rw [counters_measured, dues]
  obtain ⟨⟨subject, result⟩, events, schedule?, failures, serves⟩ := t
  cases serves with
  | @pass i start passed rest outcome result run ran =>
    obtain ⟨rfl, counted, silent⟩ := Instance.rest_of_reconcile run ran
    -- a clean pass is counted in the turn, a failed one by the loop behind it
    have ends : (Instance.reasons outcome).map Counter.requeues ++
        ((Subject.managed i).settle settings failures (i.conclusion settings outcome)).2.2.filterMap
          Measurement.counter? =
        closing ⟨⟨.managed i, i.conclusion settings outcome⟩, _, _, failures, .pass run ran⟩ := by
      obtain ⟨schedule, error⟩ := outcome
      cases error with
      | none => cases schedule <;> rfl
      | some error => rfl
    show Counter.reconciliations i.kind.name :: (passed ++ rest).filterMap Event.counted? ++ _ =
      Counter.reconciliations i.kind.name :: (passed ++ rest).filterMap (Event.due? none) ++ _
    rw [List.filterMap_append, List.filterMap_append, Instance.accounted_pass ran, counted, silent,
      ← ends]
    simp
  | @check s events result run =>
    show events.filterMap Event.counted? ++ _ =
      [] ++ events.filterMap (Event.due? (s.deleteReason? settings events)) ++ _
    rw [Secret.accounted_reconcile run]
    cases result <;> rfl

end RecordedTurn

inductive TurnPart where
  | opening
  | body
  | closing

def Counter.part : Counter → TurnPart
  | .reconciliations _ => .opening
  | .statusUpdates | .rotations | .deletions _ => .body
  | .reconciliationErrors _ | .requeues _ => .closing

namespace Event
variable {reason : Option DeleteReason} {e : Event}

theorem part_of_due {c : Counter} (due : e.due? reason = some c) : c.part = .body := by
  unfold due? at due
  split at due
  · obtain rfl := Option.some.inj due
    rfl
  · split at due
    · obtain rfl := Option.some.inj due
      rfl
    · split at due
      · obtain ⟨_, _, rfl⟩ := Option.map_eq_some_iff.mp due
        rfl
      · cases due

end Event

namespace RecordedTurn
variable {settings : Settings} {policy : RetryPolicy} (t : RecordedTurn settings policy)
  {c : Counter}

theorem part_of_opening (member : c ∈ t.opening) : c.part = .opening := by
  unfold opening at member
  split at member
  · obtain rfl := List.mem_singleton.mp member
    rfl
  · cases member

theorem part_of_closing (member : c ∈ t.closing) : c.part = .closing := by
  rcases List.mem_append.mp member with failure | requeue
  · split at failure
    · obtain rfl := List.mem_singleton.mp failure
      rfl
    · cases failure
  · obtain ⟨reason, _, rfl⟩ := List.mem_map.mp requeue
    rfl

theorem count_dues (c : Counter) : t.dues.count c =
    match c.part with
    | .opening => t.opening.count c
    | .body => t.events.countP fun e => e.due? t.deleteReason? = some c
    | .closing => t.closing.count c := by
  have opens (other : c.part ≠ .opening) : t.opening.count c = 0 :=
    List.count_eq_zero.mpr fun member => other (t.part_of_opening member)
  have passes (other : c.part ≠ .body) :
      (t.events.filterMap (Event.due? t.deleteReason?)).count c = 0 := by
    refine List.count_eq_zero.mpr fun member => ?_
    obtain ⟨e, _, due⟩ := List.mem_filterMap.mp member
    exact other (Event.part_of_due due)
  have closes (other : c.part ≠ .closing) : t.closing.count c = 0 :=
    List.count_eq_zero.mpr fun member => other (t.part_of_closing member)
  rw [dues, List.count_append, List.count_append]
  cases part : c.part with
  | opening => simp [passes, closes, part]
  | body => simp [opens, closes, part, List.count_filterMap, beq_eq_decide]
  | closing => simp [opens, passes, part]

theorem count_reconciliations {kind : Kind} (spec : kind ≠ .secret) :
    t.dues.count (.reconciliations kind.name) = if t.subject.kind = kind then 1 else 0 := by
  refine (t.count_dues _).trans ?_
  dsimp only [Counter.part]
  unfold opening Subject.kind
  cases t.subject with
  | managed i => simp [List.count_singleton, Kind.name_inj]
  | credential s => simp [Ne.symm spec]

theorem count_reconciliationErrors (kind : Kind) :
    t.dues.count (.reconciliationErrors kind.name) =
      if t.subject.kind = kind ∧ Turn.failed t.result then 1 else 0 := by
  refine (t.count_dues _).trans ?_
  have none : (t.requeueReason?.toList.map Counter.requeues).count
      (.reconciliationErrors kind.name) = 0 := List.count_eq_zero.mpr (by simp)
  rw [Counter.part, closing, List.count_append, none]
  cases Turn.failed t.result <;> simp [List.count_singleton, Kind.name_inj]

theorem count_requeues (reason : String) :
    t.dues.count (.requeues reason) = if t.requeueReason? = some reason then 1 else 0 := by
  refine (t.count_dues _).trans ?_
  have none : (if Turn.failed t.result then [Counter.reconciliationErrors t.subject.kind.name]
      else []).count (.requeues reason) = 0 := List.count_eq_zero.mpr (by simp)
  rw [Counter.part, closing, List.count_append, none]
  cases t.requeueReason? <;> simp [List.count_singleton]

theorem count_statusUpdates : t.dues.count .statusUpdates = t.events.countP Event.wrote := by
  refine (t.count_dues _).trans ?_
  simp [Counter.part, Event.due_statusUpdates]

theorem count_rotations : t.dues.count .rotations = t.events.countP Event.issued := by
  refine (t.count_dues _).trans ?_
  simp [Counter.part, Event.due_rotations]

theorem count_deletions (label : String) : t.dues.count (.deletions label) =
    if t.deleteReason?.map DeleteReason.name = some label then t.events.countP Event.removed
    else 0 := by
  refine (t.count_dues _).trans ?_
  simp only [Counter.part, Event.due_deletions]
  split
  · next same => simp [same]
  · next other => simp [other]

end RecordedTurn

theorem count_flatMap_dues {settings : Settings} {policy : RetryPolicy} {α : Type} {c : Counter}
    {part : RecordedTurn settings policy → List α} {p : α → Bool}
    (each : ∀ t, t.dues.count c = (part t).countP p) (turns : List (RecordedTurn settings policy)) :
    (turns.flatMap RecordedTurn.dues).count c = (turns.flatMap part).countP p := by
  rw [List.count_flatMap, List.countP_flatMap]
  congr 2
  exact funext each

namespace Metrics
variable {settings : Settings} {policy : RetryPolicy}

/-- Between two readings of the metrics a counter has grown by so much. -/
def Grew (before after : Metrics) (c : Counter) (n : Nat) : Prop :=
  c.value after = c.value before + n

theorem grew_of_turns (before : Metrics) {turns : List (RecordedTurn settings policy)}
    {log : List Measurement} (order : log.Perm (turns.flatMap RecordedTurn.measured))
    {α : Type} {c : Counter} {part : RecordedTurn settings policy → List α} {p : α → Bool}
    (each : ∀ t, t.dues.count c = (part t).countP p) :
    before.Grew (before.addAll log) c ((turns.flatMap part).countP p) := by
  rw [Grew, Counter.value_addAll, (order.filterMap Measurement.counter?).count_eq c,
    List.filterMap_flatMap, funext RecordedTurn.counters_eq_dues, count_flatMap_dues each]

theorem grew_of_countP (before : Metrics) {turns : List (RecordedTurn settings policy)}
    {log : List Measurement} (order : log.Perm (turns.flatMap RecordedTurn.measured))
    {c : Counter} {p : RecordedTurn settings policy → Bool}
    (each : ∀ t, t.dues.count c = if p t then 1 else 0) :
    before.Grew (before.addAll log) c (turns.countP p) := by
  have singly : ∀ t, t.dues.count c = [t].countP p := by
    intro t
    rw [List.countP_singleton, each]
  have grew := before.grew_of_turns order singly
  rwa [List.flatMap_singleton'] at grew

theorem flatMap_filter {α β : Type} (l : List α) (p : α → Bool) (f : α → List β) :
    (l.filter p).flatMap f = l.flatMap fun a => if p a then f a else [] := by
  induction l with
  | nil => rfl
  | cons a l ih => cases keeps : p a <;> simp [keeps, ih]

/-- The metrics account for all turns of all loops in one process, in whatever order these came to
measure. Each turn over an instance is counted, and each failed turn; a requeue is counted for each
failure and for each clean pass that stopped or asked for one, and for nothing else; status writes,
credentials issued and credentials deleted are counted as often as the store carried them out. -/
theorem account_for_turns (before : Metrics) {turns : List (RecordedTurn settings policy)}
    {log : List Measurement} (order : log.Perm (turns.flatMap RecordedTurn.measured)) :
    let after := before.addAll log
    (∀ kind ∈ [Kind.nodeAgent, .nodeScanner],
      before.Grew after (.reconciliations kind.name) (turns.countP (·.subject.kind = kind)) ∧
      before.Grew after (.reconciliationErrors kind.name)
        (turns.countP fun t => t.subject.kind = kind ∧ Turn.failed t.result)) ∧
    (∀ reason, before.Grew after (.requeues reason)
      (turns.countP (·.requeueReason? = some reason))) ∧
    before.Grew after .statusUpdates ((turns.flatMap (·.events)).countP Event.wrote) ∧
    before.Grew after .rotations ((turns.flatMap (·.events)).countP Event.issued) ∧
    ∀ label, before.Grew after (.deletions label)
      (((turns.filter fun t => t.deleteReason?.map DeleteReason.name = some label).flatMap
        (·.events)).countP Event.removed) := by
  refine ⟨?_, ?_, ?_, ?_, ?_⟩
  · intro kind spec
    have managed : kind ≠ .secret := by
      rintro rfl
      simp at spec
    exact ⟨before.grew_of_countP order fun t => by simpa using t.count_reconciliations managed,
      before.grew_of_countP order fun t => by simpa using t.count_reconciliationErrors kind⟩
  · intro reason
    exact before.grew_of_countP order fun t => by simpa using t.count_requeues reason
  · exact before.grew_of_turns order RecordedTurn.count_statusUpdates
  · exact before.grew_of_turns order RecordedTurn.count_rotations
  · intro label
    rw [flatMap_filter]
    refine before.grew_of_turns order fun t => ?_
    rw [t.count_deletions label]
    simp only [decide_eq_true_eq]
    split <;> rfl

def undated : Secret :=
  { metadata := { name := some "telemetry-token", ns := some "observability" } }

def newcomer : Instance :=
  { metadata := { name := some "telemetry", ns := some "observability", uid := some "agent-uid" }
    spec := .agent { credentials := true } }

def emptyWorld : World := { start := ⟨1792152000, 0⟩ }

theorem newcomer_issues :
    (emptyWorld.run (newcomer.pass {} {})).1 = ⟨.idle, none⟩ ∧
      (emptyWorld.events (newcomer.pass {} {})).countP Event.issued = 1 ∧
      (emptyWorld.events (newcomer.pass {} {})).countP Event.wrote = 0 := by
  decide +kernel

open Instance (firstAgent firstWriter agentOf noWorkload) in
theorem four_turns_counted : ∃ (turns : List (RecordedTurn {} {})) (log : List Measurement),
    log.Perm (turns.flatMap RecordedTurn.measured) ∧
      let after := Metrics.addAll {} log
      Counter.value after (.reconciliations "NodeAgent") = 2 ∧
      Counter.value after (.reconciliationErrors "NodeAgent") = 0 ∧
      Counter.value after (.requeues "step-requeue") = 1 ∧
      Counter.value after (.requeues "error-backoff") = 1 ∧
      Counter.value after .statusUpdates = 1 ∧ Counter.value after .rotations = 1 ∧
      Counter.value after (.deletions "missing-expiration") = 1 := by
  let start : Moment := ⟨⟨0, 0⟩, .zero⟩
  have deleted : (undated.reconcile {}).Runs
      [.clock start, .call (.delete _) (.ok ()), .measure (.deletion "missing-expiration")]
      (.ok .awaitChange) := .clock _ (.call _ (.measure _ (.done _)))
  have refused : (undated.reconcile {}).Runs
      [.clock start, .call (.delete _) (.error (.request "timeout"))]
      (.error (.expiry _ (.request "timeout"))) := .clock _ (.call _ (.done _))
  have passed : (firstAgent.pass {} {}).Runs
      ([.call (.apply _ _ _) (.error (.conflict "another writer"))] ++
        firstWriter.readings (agentOf 1) noWorkload start ++
        .call (.replaceStatus _) (.ok (agentOf 1)) :: [.measure .statusUpdate])
      ⟨.after (Settings.requeueDelay {}), none⟩ :=
    .call _ (.call _ (.call _ (.clock _ (.call _ (.measure _ (.done _))))))
  have requeued : (firstAgent.reconcile {} {}).Runs
      (.measure (.reconciliation firstAgent.kind.name) :: .clock start :: (_ ++
        firstAgent.aftermath start start ⟨.after (Settings.requeueDelay {}), none⟩))
      (.ok (.after (Settings.requeueDelay {}))) :=
    Instance.reconcile_runs_iff.mpr ⟨start, _, _, start, rfl, passed, rfl⟩
  obtain ⟨idle, issued, unwritten⟩ := newcomer_issues
  have ran : (newcomer.pass {} {}).Runs (emptyWorld.events (newcomer.pass {} {})) ⟨.idle, none⟩ :=
    idle ▸ emptyWorld.runs_events _
  have settled : (newcomer.reconcile {} {}).Runs
      (.measure (.reconciliation newcomer.kind.name) :: .clock start :: (_ ++
        newcomer.aftermath start start ⟨.idle, none⟩))
      (.ok (.after (Settings.refreshInterval {}))) :=
    Instance.reconcile_runs_iff.mpr ⟨start, _, _, start, rfl, ran, rfl⟩
  let first : List (RecordedTurn {} {}) := [
    ⟨⟨.credential undated, _⟩, _, _, [], .check deleted⟩,
    ⟨⟨.credential undated, _⟩, _, _, [], .check refused⟩,
    ⟨⟨.managed firstAgent, _⟩, _, _, [], .pass requeued passed⟩]
  let last : RecordedTurn {} {} := ⟨⟨.managed newcomer, _⟩, _, _, [], .pass settled ran⟩
  let turns := first ++ [last]
  have counted (p : Event → Bool) : (turns.flatMap (·.events)).countP p =
      (first.flatMap (·.events)).countP p +
        ([.measure (.reconciliation newcomer.kind.name), .clock start].countP p +
          (emptyWorld.events (newcomer.pass {} {})).countP p +
          (newcomer.aftermath start start ⟨.idle, none⟩).countP p) := by
    rw [← List.countP_append, ← List.countP_append, List.flatMap_append, List.flatMap_singleton]
    exact List.countP_append
  have order : (turns.flatMap RecordedTurn.measured).reverse.Perm
      (turns.flatMap RecordedTurn.measured) := List.reverse_perm _
  obtain ⟨kinds, requeues, updates, rotations, deletions⟩ := account_for_turns {} order
  obtain ⟨agents, errors⟩ := kinds .nodeAgent (by simp)
  refine ⟨turns, _, order, agents, errors, ?_, ?_, ?_, ?_, ?_⟩
  · refine (requeues _).trans ?_
    simp [turns, first, last, RecordedTurn.requeueReason?, Counter.value]
  · refine (requeues _).trans ?_
    simp [turns, first, last, RecordedTurn.requeueReason?, Counter.value]
  · refine updates.trans ?_
    rw [counted, unwritten]
    rfl
  · refine rotations.trans ?_
    rw [counted, issued]
    rfl
  · refine (deletions _).trans ?_
    have decided : Expiry.decide undated.metadata.annotations start.wall
        (Settings.refreshInterval {}) = .delete .missingExpiration := rfl
    simp [turns, first, last, RecordedTurn.deleteReason?, Secret.deleteReason?, Event.moment?,
      decided, DeleteReason.name, Event.removed, Counter.value]

end Metrics
end AgentOperator
