import AgentOperator.ControlLoop
import AgentOperator.Proofs.ExpiryTime
import AgentOperator.Proofs.InventoryOrder
import AgentOperator.Proofs.StepTrace

/-!
The two loops that work on credentials at the same time. Workers of both loops take turns event by
event, in any order: some issue a credential, others check the copy of a secret that they observed
and delete by key what they decide on. What a check deletes is due exactly if nothing was applied
there since its observation, or the last that was is due by then.
-/
namespace AgentOperator

def Secret.slot (s : Secret) : Slot := ⟨.secret, s.metadata.key⟩

/-- What a check of a secret did: one that is being deleted is left alone, one that is not due is
looked at later, and any other is deleted, unless it is gone or the store refuses. -/
inductive Secret.Checked (s : Secret) (settings : Settings) :
    List Event → Except TurnError Requeue → Prop where
  | left (moment : Moment) (leaving : s.metadata.isDeleting = true) :
      Checked s settings [.clock moment] (.ok .awaitChange)
  | kept {moment : Moment} {delay : Duration}
      (decided : Expiry.decide s.metadata.annotations moment.wall settings.refreshInterval =
        .recheck delay) :
      Checked s settings [.clock moment] (.ok (.after delay))
  | deleted {moment : Moment} {reason : DeleteReason}
      (decided : Expiry.decide s.metadata.annotations moment.wall settings.refreshInterval =
        .delete reason) :
      Checked s settings [.clock moment, .call (.delete s.slot) (.ok ()),
        .measure (.deletion reason.name)] (.ok .awaitChange)
  | gone {moment : Moment} {reason : DeleteReason} (text : String)
      (decided : Expiry.decide s.metadata.annotations moment.wall settings.refreshInterval =
        .delete reason) :
      Checked s settings [.clock moment, .call (.delete s.slot) (.error (.notFound text))]
        (.ok .awaitChange)
  | refused {moment : Moment} {reason : DeleteReason} {error : StoreError}
      (worse : ∀ text, error ≠ .notFound text)
      (decided : Expiry.decide s.metadata.annotations moment.wall settings.refreshInterval =
        .delete reason) :
      Checked s settings [.clock moment, .call (.delete s.slot) (.error error)]
        (.error (.expiry s.metadata.key error))

theorem Secret.checked_of_reconcile {s : Secret} {settings : Settings} {events : List Event}
    {result : Except TurnError Requeue} (run : (s.reconcile settings).Runs events result) :
    s.Checked settings events result := by
  rw [reconcile, Program.now_bind, Program.runs_clock] at run
  obtain ⟨moment, later, rfl, run⟩ := run
  split at run
  · next leaving =>
    obtain ⟨rfl, rfl⟩ := Program.runs_pure.mp run
    exact .left moment leaving
  · obtain ⟨enforcing, decision, last, rfl, enforced, concluded⟩ := Program.runs_bind.mp run
    unfold Expiry.enforce at enforced
    dsimp only at enforced
    split at enforced
    · next delay decided =>
      obtain ⟨rfl, rfl⟩ := Program.runs_pure.mp enforced
      obtain ⟨rfl, rfl⟩ := Program.runs_pure.mp concluded
      rw [decided]
      exact .kept decided
    · next reason decided =>
      rw [Program.delete_bind, Program.runs_call] at enforced
      obtain ⟨answer, rest, rfl, enforced⟩ := enforced
      rcases answer with error | _
      · cases error with
        | notFound text =>
          obtain ⟨rfl, rfl⟩ := Program.runs_pure.mp enforced
          obtain ⟨rfl, rfl⟩ := Program.runs_pure.mp concluded
          rw [decided]
          exact .gone text decided
        | _ =>
          obtain ⟨rfl, rfl⟩ := Program.runs_pure.mp enforced
          obtain ⟨rfl, rfl⟩ := Program.runs_pure.mp concluded
          exact .refused nofun decided
      · dsimp only at enforced
        rw [Program.record_bind, Program.runs_measure] at enforced
        obtain ⟨nothing, rfl, finish⟩ := enforced
        obtain ⟨rfl, rfl⟩ := Program.runs_pure.mp finish
        obtain ⟨rfl, rfl⟩ := Program.runs_pure.mp concluded
        rw [decided]
        exact .deleted decided

theorem Secret.runs_cases {s : Secret} {settings : Settings} {events : List Event}
    {result : Except TurnError Requeue} (run : (s.reconcile settings).Runs events result) :
    (∃ moment, events = [.clock moment]) ∨
      ∃ moment reason answer rest, events = .clock moment :: .call (.delete s.slot) answer :: rest ∧
        Expiry.decide s.metadata.annotations moment.wall settings.refreshInterval =
          .delete reason ∧ ∀ call answer, .call call answer ∉ rest := by
  cases checked_of_reconcile run with
  | left moment leaving => exact Or.inl ⟨moment, rfl⟩
  | kept decided => exact Or.inl ⟨_, rfl⟩
  | deleted decided => exact Or.inr ⟨_, _, _, _, rfl, decided, by simp⟩
  | gone text decided => exact Or.inr ⟨_, _, _, [], rfl, decided, by simp⟩
  | refused worse decided => exact Or.inr ⟨_, _, _, [], rfl, decided, by simp⟩

theorem Secret.decided_of_delete {s : Secret} {settings : Settings} {before after : List Event}
    {slot : Slot} {answer : Except StoreError Unit} {result : Except TurnError Requeue}
    (run : (s.reconcile settings).Runs (before ++ .call (.delete slot) answer :: after) result) :
    ∃ moment reason, before = [.clock moment] ∧ slot = s.slot ∧
      Expiry.decide s.metadata.annotations moment.wall settings.refreshInterval =
        .delete reason := by
  rcases runs_cases run with ⟨moment, same⟩ | ⟨moment, reason, given, rest, same, decided, silent⟩
  · cases before <;> simp at same
  · rcases before with _ | ⟨first, _ | ⟨second, before⟩⟩
    · cases same
    · obtain ⟨rfl, tail⟩ := List.cons.inj same
      obtain ⟨call, _⟩ := List.cons.inj tail
      cases call
      exact ⟨moment, reason, rfl, rfl, decided⟩
    · obtain ⟨_, tail⟩ := List.cons.inj same
      obtain ⟨_, tail'⟩ := List.cons.inj tail
      refine absurd ?_ (silent (.delete slot) answer)
      rw [← tail']
      simp

inductive CredentialTask where
  | issue (s : CredentialStep)
  | check (copy : Secret)

namespace CredentialTask

def Begins (settings : Settings) (task : CredentialTask) (events : List Event) : Prop :=
  match task with
  | .issue s => ∃ rest result, s.run.Runs (events ++ rest) result
  | .check copy => ∃ rest result, (copy.reconcile settings).Runs (events ++ rest) result

theorem Begins.of_append {settings : Settings} {task : CredentialTask} {events more : List Event}
    (begins : task.Begins settings (events ++ more)) : task.Begins settings events := by
  cases task with
  | issue s =>
    obtain ⟨rest, result, run⟩ := begins
    exact ⟨more ++ rest, result, by rwa [← List.append_assoc]⟩
  | check copy =>
    obtain ⟨rest, result, run⟩ := begins
    exact ⟨more ++ rest, result, by rwa [← List.append_assoc]⟩

theorem not_writes_otherwise {settings : Settings} {task : CredentialTask} {events : List Event}
    (begins : task.Begins settings events) {call : Call} {answer : call.Answer}
    (called : .call call answer ∈ events) :
    call.verb ≠ .create ∧ call.verb ≠ .replace ∧ call.verb ≠ .replaceStatus := by
  cases task with
  | issue s =>
    obtain ⟨rest, result, run⟩ := begins
    rcases run.sort_of_mem s.only_run (List.mem_append_left rest called) with
      rfl | rfl | token | ⟨r, rfl, _⟩ | rfl
    case inr.inr.inl => rw [token]; simp
    all_goals simp [Call.verb]
  | check copy =>
    obtain ⟨rest, result, run⟩ := begins
    have member := List.mem_append_left rest called
    rcases Secret.runs_cases run with
      ⟨moment, same⟩ | ⟨moment, reason, given, last, same, _, silent⟩
    · simp [same] at member
    · rw [same] at member
      rcases List.mem_cons.mp member with clock | member
      · cases clock
      · rcases List.mem_cons.mp member with delete | later
        · cases delete
          simp [Call.verb]
        · exact absurd later (silent call answer)

end CredentialTask

def Event.applied? (slot : Slot) : Event → Option (Option (Fields String))
  | .call (.apply r _ _) (.ok _) =>
    if r.slot = slot then some r.object.metadata.annotations else none
  | _ => none

namespace Cluster
variable {c c' : Cluster} {slot : Slot} {annotations : Option (Fields String)}

def Annotated (c : Cluster) (slot : Slot) (annotations : Option (Fields String)) : Prop :=
  ∀ o, c.find? slot = some o → o.metadata.annotations = annotations

theorem Annotated.congr (held : c.Annotated slot annotations) (alike : c'.Alike c) :
    c'.Annotated slot annotations := fun o found => held o (alike.find? slot ▸ found)

theorem annotated_of_apply (held : c.Annotated slot annotations) (r : Resource) :
    (c.apply r).2.Annotated slot
      (if r.slot = slot then r.object.metadata.annotations else annotations) := by
  obtain ⟨object, written, same⟩ : ∃ object, (c.apply r).2 = (c.write r.slot object).2 ∧
      object.metadata.annotations = r.object.metadata.annotations := by
    unfold apply
    split
    · exact ⟨_, rfl, rfl⟩
    · exact ⟨_, rfl, by simp [merged, keepOwn, Object.withMetadata]⟩
  intro o' found
  rw [written, find?_write] at found
  split at found
  · next here =>
    obtain rfl := Option.some.inj found
    rw [if_pos here.symm]
    exact same
  · next elsewhere =>
    rw [if_neg (Ne.symm elsewhere)]
    exact held o' found

theorem annotated_of_delete (ordered : c.inventory.Ordered) (held : c.Annotated slot annotations)
    (now : Timestamp) (other : Slot) : (c.delete now other).2.Annotated slot annotations := by
  unfold delete
  split
  · exact held
  · next stored present =>
    split
    · intro o found
      exact held o (ordered.find?_of_sublist (Inventory.remove_sublist _ _) found)
    · split
      · exact held
      · intro o found
        rw [find?_write] at found
        split at found
        · next here =>
          obtain rfl := Option.some.inj found
          exact held stored (here ▸ present)
        · exact held o found

theorem annotated_of_serves {e : Event} (ordered : c.inventory.Ordered)
    (held : c.Annotated slot annotations) (serves : c.Serves [e] c')
    (narrow : ∀ call answer, e = .call call answer →
      call.verb ≠ .create ∧ call.verb ≠ .replace ∧ call.verb ≠ .replaceStatus) :
    c'.Annotated slot ((e.applied? slot).getD annotations) := by
  cases serves with
  | @served b _ d _ call answer _ alike now carried later =>
    cases later
    have heldThere : b.Annotated slot annotations := held.congr alike
    have orderedThere : b.inventory.Ordered := alike.inventory ▸ ordered
    cases call with
    | get s =>
      cases carried
      exact heldThere
    | requestToken account request =>
      cases carried
      exact heldThere
    | apply r manager force =>
      obtain ⟨o, d', applied⟩ := b.apply_ok r
      obtain ⟨rfl, rfl⟩ : answer = .ok o ∧ c' = d' := Prod.mk.inj (carried.symm.trans applied)
      have kept := annotated_of_apply heldThere r
      rw [applied] at kept
      have same : ((Event.call (.apply r manager force) (.ok o)).applied? slot).getD annotations =
          if r.slot = slot then r.object.metadata.annotations else annotations := by
        simp only [Event.applied?]
        split <;> rfl
      exact same ▸ kept
    | delete s =>
      have kept := annotated_of_delete orderedThere heldThere now s
      have deleted : (b.delete now s).2 = c' := congrArg Prod.snd carried
      rw [deleted] at kept
      exact kept
    | create r => exact absurd rfl (narrow _ _ rfl).1
    | replace r => exact absurd rfl (narrow _ _ rfl).2.1
    | replaceStatus r => exact absurd rfl (narrow _ _ rfl).2.2
  | skipped alike idle later =>
    cases later
    have nothing : e.applied? slot = none := by
      unfold Event.applied?
      split
      · exact absurd trivial idle
      · rfl
    rw [nothing]
    exact held.congr alike

end Cluster

inductive CredentialAct where
  | assign (worker : Nat) (task : CredentialTask)
  | step (worker : Nat) (event : Event)

structure CredentialPassage where
  before : Cluster
  now : Timestamp
  act : CredentialAct
  after : Cluster

namespace CredentialLoops

/-- The task of a worker, and what it has done about it; the last passage comes first. -/
def doing (n : Nat) : List CredentialPassage → Option (CredentialTask × List Event)
  | [] => none
  | p :: past =>
    match p.act with
    | .assign m task => if m = n then some (task, []) else doing n past
    | .step m e =>
      if m = n then (doing n past).map fun (task, events) => (task, events ++ [e])
      else doing n past

/-- The annotations that anybody has applied last to the object at the slot since the worker was
given its task. -/
def appliedSince (n : Nat) (slot : Slot) : List CredentialPassage → Option (Option (Fields String))
  | [] => none
  | p :: past =>
    match p.act with
    | .assign m _ => if m = n then none else appliedSince n slot past
    | .step _ e => (e.applied? slot).or (appliedSince n slot past)

/-- What an act makes of the cluster. A check is given a copy of the secret as it is stored. -/
inductive Happens (settings : Settings) (past : List CredentialPassage) (now : Timestamp)
    (c : Cluster) : CredentialAct → Cluster → Prop where
  | issue (n : Nat) (s : CredentialStep) : Happens settings past now c (.assign n (.issue s)) c
  | observe (n : Nat) {copy : Secret} {stored : Object} (found : c.find? copy.slot = some stored)
      (copied : copy.metadata = stored.metadata) :
      Happens settings past now c (.assign n (.check copy)) c
  | step {n : Nat} {task : CredentialTask} {events : List Event} {e : Event} {c' : Cluster}
      (working : doing n past = some (task, events))
      (begins : task.Begins settings (events ++ [e]))
      (clock : ∀ moment, e = .clock moment → moment.wall = now) (serves : c.Serves [e] c') :
      Happens settings past now c (.step n e) c'

/-- A run from a cluster to another one, the last passage first. Time does not go back. -/
inductive Run (settings : Settings) (start : Cluster) :
    List CredentialPassage → Cluster → Prop where
  | start : Run settings start [] start
  | act {past : List CredentialPassage} {c c' : Cluster} {act : CredentialAct} {now : Timestamp}
      (run : Run settings start past c) (clock : now.OnClock) (later : ∀ p ∈ past, p.now ≤ now)
      (happens : Happens settings past now c act c') :
      Run settings start (⟨c, now, act, c'⟩ :: past) c'

variable {settings : Settings} {start c c' : Cluster} {past : List CredentialPassage}
  {p : CredentialPassage} {n : Nat} {task : CredentialTask} {events : List Event} {e : Event}
  {copy : Secret}

theorem mem_of_doing (working : doing n past = some (task, events)) (member : e ∈ events) :
    ∃ p ∈ past, p.act = .step n e := by
  induction past generalizing events with
  | nil => cases working
  | cons p past ih =>
    unfold doing at working
    split at working
    · split at working
      · cases working
        cases member
      · obtain ⟨q, earlier, same⟩ := ih working member
        exact ⟨q, List.mem_cons_of_mem _ earlier, same⟩
    · next m e' act =>
      split at working
      · next same =>
        obtain ⟨⟨task', done⟩, found, pair⟩ := Option.map_eq_some_iff.mp working
        cases pair
        rcases List.mem_append.mp member with before | last
        · obtain ⟨q, earlier, act'⟩ := ih found before
          exact ⟨q, List.mem_cons_of_mem _ earlier, act'⟩
        · obtain rfl := List.mem_singleton.mp last
          exact ⟨p, List.mem_cons_self, same ▸ act⟩
      · obtain ⟨q, earlier, same⟩ := ih working member
        exact ⟨q, List.mem_cons_of_mem _ earlier, same⟩

theorem clock_of_run {moment : Moment} (run : Run settings start past c) (member : p ∈ past)
    (read : p.act = .step n (.clock moment)) : moment.wall = p.now ∧ p.now.OnClock := by
  induction run with
  | start => cases member
  | act run clock later happens ih =>
    rcases List.mem_cons.mp member with rfl | earlier
    · cases read
      cases happens with
      | step working begins reading serves => exact ⟨reading moment rfl, clock⟩
    · exact ih earlier

structure Kept (past : List CredentialPassage) (c : Cluster) : Prop where
  ordered : c.inventory.Ordered
  annotated : ∀ n copy events, doing n past = some (.check copy, events) →
    c.Annotated copy.slot ((appliedSince n copy.slot past).getD copy.metadata.annotations)

theorem kept_of_act {act : CredentialAct} {now : Timestamp} (kept : Kept past c)
    (happens : Happens settings past now c act c') : Kept (⟨c, now, act, c'⟩ :: past) c' := by
  cases happens with
  | issue m s =>
    refine ⟨kept.ordered, ?_⟩
    intro n copy events working
    simp only [doing] at working
    split at working
    · cases working
    · next other =>
      simp only [appliedSince, if_neg other]
      exact kept.annotated n copy events working
  | @observe m copy' stored found copied =>
    refine ⟨kept.ordered, ?_⟩
    intro n copy events working
    simp only [doing] at working
    split at working
    · next same =>
      cases working
      simp only [appliedSince, if_pos same]
      intro o there
      rw [found] at there
      obtain rfl := Option.some.inj there
      rw [copied]
      rfl
    · next other =>
      simp only [appliedSince, if_neg other]
      exact kept.annotated n copy events working
  | @step m task done e _ working' begins clock serves =>
    refine ⟨serves.ordered kept.ordered, ?_⟩
    intro n copy events working
    -- the worker of this act keeps its task, so whose act it was does not matter
    obtain ⟨before, earlier⟩ : ∃ before, doing n past = some (.check copy, before) := by
      simp only [doing] at working
      split at working
      · obtain ⟨⟨task', before⟩, found, pair⟩ := Option.map_eq_some_iff.mp working
        cases pair
        exact ⟨before, found⟩
      · exact ⟨events, working⟩
    simp only [appliedSince, Option.getD_or]
    refine Cluster.annotated_of_serves kept.ordered (kept.annotated n copy before earlier) serves ?_
    intro call answer same
    have called : .call call answer ∈ done ++ [e] := by simp [same]
    exact CredentialTask.not_writes_otherwise begins called

theorem kept_of_run (run : Run settings start past c) (ordered : start.inventory.Ordered) :
    Kept past c := by
  induction run with
  | start => exact ⟨ordered, by intro n copy events working; cases working⟩
  | act run clock later happens ih => exact kept_of_act ih happens

/-- When a check deletes what is stored there, it is due exactly if what was applied there last
since the check observed its copy, if anything was, is due. -/
theorem deleted_due_iff {slot : Slot} {answer : Except StoreError Unit} {stored : Object}
    (run : Run settings start (p :: past) c) (ordered : start.inventory.Ordered)
    (working : doing n past = some (.check copy, events))
    (deletes : p.act = .step n (.call (.delete slot) answer))
    (found : p.before.find? slot = some stored) :
    Expiry.Due stored.metadata.annotations p.now settings.refreshInterval ↔
      ∀ annotations, appliedSince n slot past = some annotations →
        Expiry.Due annotations p.now settings.refreshInterval := by
  obtain ⟨before, now, act, after⟩ := p
  cases deletes
  cases run with
  | act run clock later happens =>
    have kept := kept_of_run run ordered
    cases happens with
    | step working' begins _ serves =>
      rw [working] at working'
      obtain ⟨rfl, rfl⟩ := Prod.mk.inj (Option.some.inj working')
      obtain ⟨rest, result, checks⟩ := begins
      rw [List.append_assoc] at checks
      obtain ⟨moment, reason, rfl, rfl, decided⟩ := Secret.decided_of_delete checks
      have current := kept.annotated n copy _ working stored found
      cases applied : appliedSince n copy.slot past with
      | none =>
        obtain ⟨q, earlier, read⟩ := mem_of_doing working List.mem_cons_self
        obtain ⟨same, onClock⟩ := clock_of_run run earlier read
        have due := Expiry.due_of_delete (same ▸ onClock) decided
        rw [applied] at current
        rw [current]
        simp [due.persists (same ▸ onClock) clock (same ▸ later q earlier)]
      | some annotations =>
        rw [applied] at current
        rw [current]
        simp

theorem doing_assign (past : List CredentialPassage) (now : Timestamp) :
    doing n (⟨c, now, .assign n task, c'⟩ :: past) = some (task, []) := by
  simp [doing]

theorem timely_cons {now : Timestamp} {act : CredentialAct}
    (order : ∀ p ∈ past, p.now ≤ now) :
    ∀ p ∈ (⟨c, now, act, c'⟩ :: past : List CredentialPassage), p.now ≤ now := by
  intro p member
  rcases List.mem_cons.mp member with rfl | earlier
  · exact Or.inr ⟨rfl, Nat.le_refl _⟩
  · exact order p earlier

def lastApplied (slot : Slot) (events : List Event) : Option (Option (Fields String)) :=
  events.reverse.findSome? (·.applied? slot)

theorem exists_undisturbed {more : List Event} {now : Timestamp}
    (run : Run settings start past c) (working : doing n past = some (task, events))
    (begins : task.Begins settings (events ++ more)) (clock : now.OnClock)
    (order : ∀ p ∈ past, p.now ≤ now) (reading : ∀ moment, .clock moment ∈ more → moment.wall = now)
    (serves : c.Serves more c') :
    ∃ past', Run settings start past' c' ∧ (∀ p ∈ past', p.now ≤ now) ∧
      doing n past' = some (task, events ++ more) ∧ (∀ m, m ≠ n → doing m past' = doing m past) ∧
      ∀ m slot, appliedSince m slot past' =
        (lastApplied slot more).or (appliedSince m slot past) := by
  induction more generalizing past c events with
  | nil =>
    cases serves
    exact ⟨past, run, order, by simpa using working, fun m _ => rfl, fun m slot => rfl⟩
  | cons e rest ih =>
    rw [← List.singleton_append] at begins serves
    rw [← List.append_assoc] at begins
    obtain ⟨d, first, last⟩ := serves.split
    have ran := run.act clock order <| .step working (CredentialTask.Begins.of_append begins)
      (fun moment same => reading moment (same ▸ List.mem_cons_self)) first
    have working' : doing n (⟨c, now, .step n e, d⟩ :: past) = some (task, events ++ [e]) := by
      simp [doing, working]
    obtain ⟨past', run', order', done, others, applied⟩ := ih ran working' begins
      (timely_cons order) (fun moment member => reading moment (List.mem_cons_of_mem _ member)) last
    refine ⟨past', run', order', by simpa using done, ?_, ?_⟩
    · intro m other
      rw [others m other]
      simp [doing, Ne.symm other]
    · intro m slot
      rw [applied]
      simp [appliedSince, lastApplied, List.findSome?_append, Option.or_assoc]

def telemetry : Instance :=
  { metadata := { name := some "telemetry", ns := some "observability", uid := some "agent-uid" }
    spec := .agent { credentials := true } }

def issuer : CredentialStep :=
  { owner := .ofInstance telemetry, blueprint := .ofInstance telemetry {}, enabled := true
    accountTimeout := .ofSecs 10 }

def account : Object :=
  { metadata := { name := some "telemetry-agent", ns := some "observability" } }

def untimed : Object :=
  { metadata := { name := some "telemetry-token", ns := some "observability" } }

def accounted : Cluster := (Cluster.create {} ⟨.serviceAccount, account⟩).2

def credited : Cluster := (accounted.create ⟨.secret, untimed⟩).2

def stored : Object := (accounted.insert ⟨.secret, untimed⟩).1

def observed : Secret := ⟨stored.metadata⟩

def noon : Moment := ⟨⟨1792152000, 0⟩, ⟨0⟩⟩

theorem ordered_credited : credited.inventory.Ordered := by
  have empty : (Cluster.inventory {}).Ordered := List.Pairwise.nil
  have one := Cluster.ordered_carryOut empty ⟨0, 0⟩ (.create ⟨.serviceAccount, account⟩)
  exact Cluster.ordered_carryOut one ⟨0, 0⟩ (.create ⟨.secret, untimed⟩)

theorem onClock_noon : noon.wall.OnClock := by decide

theorem observed_runs : (observed.reconcile {}).Runs
    [.clock noon, .call (.delete observed.slot) (.ok ()),
      .measure (.deletion DeleteReason.missingExpiration.name)] (.ok .awaitChange) :=
  .clock _ (.call _ (.measure _ (.done _)))

theorem exists_observed : ∃ past, Run {} credited past credited ∧ (∀ p ∈ past, p.now ≤ noon.wall) ∧
    doing 0 past = some (.check observed, [.clock noon]) ∧
    ∀ slot, appliedSince 0 slot past = none := by
  have found : credited.find? observed.slot = some stored := rfl
  have assigned : Run {} credited _ credited :=
    .act .start onClock_noon (by simp) (.observe 0 found rfl)
  have begins : CredentialTask.Begins {} (.check observed) ([] ++ [.clock noon]) :=
    ⟨_, _, observed_runs⟩
  obtain ⟨past, run, order, working, _, applied⟩ := exists_undisturbed assigned
    (doing_assign [] noon.wall) begins onClock_noon (timely_cons (by simp)) (by simp)
    (.skipped (.refl _) id (.done _))
  exact ⟨past, run, order, working, fun slot => by rw [applied]; rfl⟩

theorem observed_deleted : ∃ past p stored, Run {} credited (p :: past) p.after ∧
    credited.inventory.Ordered ∧ doing 0 past = some (.check observed, [.clock noon]) ∧
    p.act = .step 0 (.call (.delete observed.slot) (.ok ())) ∧
    p.before.find? observed.slot = some stored ∧ p.after.find? observed.slot = none ∧
    Expiry.Due stored.metadata.annotations p.now (Settings.refreshInterval {}) := by
  obtain ⟨past, run, order, working, unapplied⟩ := exists_observed
  have begins : CredentialTask.Begins {} (.check observed)
      ([.clock noon] ++ [.call (.delete observed.slot) (.ok ())]) := ⟨_, _, observed_runs⟩
  have served : credited.Serves [.call (.delete observed.slot) (.ok ())]
      (credited.remove observed.slot) := .served (.refl _) noon.wall rfl (.done _)
  have ran := run.act onClock_noon order (.step working begins nofun served)
  have found : credited.find? observed.slot = some stored := rfl
  have due := deleted_due_iff ran ordered_credited working rfl found
  rw [unapplied] at due
  exact ⟨past, _, stored, ran, ordered_credited, working, rfl, found,
    Cluster.find?_remove_self _ _, due.mpr nofun⟩

def reference : OwnerReference :=
  { apiVersion := Kind.nodeAgent.apiVersion, controller := some true, kind := "NodeAgent"
    name := "telemetry", uid := "agent-uid" }

def token : String :=
  s!"token-{issuer.accountSlot.key.name}-{Conventions.tokenTtl.secs}-{credited.tokens}"

def fresh : Resource :=
  (Manifest.credentialSecret issuer.blueprint
    ⟨token, noon.wall.shift 3600000000000⟩).resource.withOwner reference

def rotated : Cluster := (credited.apply fresh).2

def rotation (found applied : Object) : List Event :=
  [.clock noon, .call (.get issuer.accountSlot) (.ok found), .clock noon, .clock noon,
    .call (.get issuer.secretSlot) (.ok stored),
    .call (.requestToken issuer.accountSlot.key ⟨Conventions.audiences, Conventions.tokenTtl⟩)
      (.ok token),
    .call (.apply fresh Conventions.fieldManager true) (.ok applied)]

theorem rotation_runs (found applied : Object) :
    issuer.run.Runs (rotation found applied ++ [.measure .rotation]) .ok :=
  .clock _ (.call _ (.clock _ (.clock _ (.call _ (.call _ (.call _ (.measure _ (.done _))))))))

theorem rotation_served : ∃ found applied, credited.Serves (rotation found applied) rotated :=
  ⟨_, _, .skipped (.refl _) id (.served (.refl _) noon.wall rfl (.skipped (.refl _) id
    (.skipped (.refl _) id (.served (.refl _) noon.wall rfl (.served (.refl _) noon.wall rfl
      (.served (.refl _) noon.wall rfl (.done _)))))))⟩

theorem not_due_fresh : ¬ Expiry.Due fresh.object.metadata.annotations noon.wall
    (Settings.refreshInterval {}) := by
  intro due
  have recorded : Expiry.recorded fresh.object.metadata.annotations =
      .ok (noon.wall.shift 3600000000000) := by rfl
  exact absurd (due _ recorded) (by decide)

/-- If an issuer rotates between the observation and the deletion, the check deletes what the issuer
has just applied. -/
theorem fresh_deleted_unseen : ∃ past p stored, Run {} credited (p :: past) p.after ∧
    doing 0 past = some (.check observed, [.clock noon]) ∧
    p.act = .step 0 (.call (.delete observed.slot) (.ok ())) ∧
    p.before.find? observed.slot = some stored ∧ p.after.find? observed.slot = none ∧
    ¬ Expiry.Due stored.metadata.annotations p.now (Settings.refreshInterval {}) := by
  obtain ⟨past, run, order, working, _⟩ := exists_observed
  obtain ⟨found, applied, served⟩ := rotation_served
  have assigned := run.act onClock_noon order (.issue 1 issuer)
  have rotates : CredentialTask.Begins {} (.issue issuer) ([] ++ rotation found applied) :=
    ⟨_, _, rotation_runs found applied⟩
  obtain ⟨past', rotatedRun, order', _, others, _⟩ := exists_undisturbed assigned
    (doing_assign past noon.wall) rotates onClock_noon (timely_cons order) (by simp [rotation])
    served
  have working' : doing 0 past' = some (.check observed, [.clock noon]) := by
    rw [others 0 (by decide)]
    simpa [doing] using working
  have deletes : CredentialTask.Begins {} (.check observed)
      ([.clock noon] ++ [.call (.delete observed.slot) (.ok ())]) := ⟨_, _, observed_runs⟩
  have removed : rotated.Serves [.call (.delete observed.slot) (.ok ())]
      (rotated.remove observed.slot) := .served (.refl _) noon.wall rfl (.done _)
  obtain ⟨o, there, annotations⟩ : ∃ o, rotated.find? observed.slot = some o ∧
      o.metadata.annotations = fresh.object.metadata.annotations := ⟨_, rfl, rfl⟩
  refine ⟨past', _, o,
    rotatedRun.act onClock_noon order' (.step working' deletes (by simp) removed), working', rfl,
    there, Cluster.find?_remove_self _ _, ?_⟩
  rw [annotations]
  exact not_due_fresh

end CredentialLoops
end AgentOperator
