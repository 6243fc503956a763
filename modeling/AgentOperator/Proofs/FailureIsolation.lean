import AgentOperator.Proofs.AgentNames
import AgentOperator.Proofs.FailureHistory

/-!
How far a failure reaches. All loops count failures in one table by text keys. The keys of different
objects differ as long as no name or namespace holds the separator, and what happens to an object
reads and writes the entry under its own key only. So an object waits, and its failures are counted,
as if nothing else had ever failed.
-/
namespace AgentOperator

def Unslashed (text : String) : Prop := '/' ∉ text.toList

instance (text : String) : Decidable (Unslashed text) := by unfold Unslashed; infer_instance

theorem Key.render_injective {a b : Key} (name : Unslashed a.name) (name' : Unslashed b.name)
    (ns : ∀ n ∈ a.ns, Unslashed n) (ns' : ∀ n ∈ b.ns, Unslashed n) (same : a.render = b.render) :
    a = b := by
  obtain ⟨aNs, aName⟩ := a
  obtain ⟨bNs, bName⟩ := b
  cases aNs with
  | none =>
    cases bNs with
    | none =>
      have names : aName = bName := same
      rw [names]
    | some n =>
      have names : aName = n ++ "/" ++ bName := same
      rw [names] at name
      simp [Unslashed] at name
  | some m =>
    cases bNs with
    | none =>
      have names : m ++ "/" ++ aName = bName := same
      rw [← names] at name'
      simp [Unslashed] at name'
    | some n =>
      have joined : m.toList ++ '/' :: aName.toList = n.toList ++ '/' :: bName.toList := by
        simpa [Key.render] using congrArg String.toList same
      rcases joined_eq_iff.mp joined with ⟨spaces, names⟩ | ⟨middle, cut, _⟩ | ⟨middle, cut, _⟩
      · rw [String.toList_inj.mp spaces, String.toList_inj.mp names]
      · have clean := ns m rfl
        simp [Unslashed, cut] at clean
      · have clean := ns' n rfl
        simp [Unslashed, cut] at clean

namespace Subject

def metadata : Subject → Metadata
  | .managed i => i.metadata
  | .credential s => s.metadata

def slot (subject : Subject) : Slot := ⟨subject.kind, subject.metadata.key⟩

/-- Named as the API names objects: a credential lives in a namespace, and no part of a name holds
the separator of the keys. -/
structure Addressed (subject : Subject) : Prop where
  named : subject.metadata.name.isSome
  placed : subject.kind = .secret → subject.metadata.ns.isSome
  name : Unslashed subject.metadata.key.name
  ns : ∀ n ∈ subject.metadata.ns, Unslashed n

theorem failureKey_eq {subject : Subject} (addressed : subject.Addressed) :
    subject.failureKey = subject.kind.name ++ "/" ++ subject.metadata.key.render := by
  obtain ⟨named, placed, _, _⟩ := addressed
  cases subject with
  | managed i => rfl
  | credential s =>
    obtain ⟨name, isName⟩ := Option.isSome_iff_exists.mp named
    obtain ⟨n, isNs⟩ := Option.isSome_iff_exists.mp (placed rfl)
    have isName : s.metadata.name = some name := isName
    have isNs : s.metadata.ns = some n := isNs
    simp [failureKey, Secret.failureKey, kind, metadata, Metadata.key, Key.render, isName, isNs,
      String.append_assoc]

theorem failureKey_eq_iff {a b : Subject} (first : a.Addressed) (second : b.Addressed) :
    a.failureKey = b.failureKey ↔ a.slot = b.slot := by
  constructor
  · intro same
    have kinds := kind_eq_of_failureKey_eq same
    rw [failureKey_eq first, failureKey_eq second, kinds] at same
    have rendered : a.metadata.key.render = b.metadata.key.render := by
      simpa [String.append_right_inj] using same
    have keys := Key.render_injective first.name second.name first.ns second.ns rendered
    unfold slot
    rw [kinds, keys]
  · intro same
    have kinds : a.kind = b.kind := congrArg Slot.kind same
    have keys : a.metadata.key = b.metadata.key := congrArg Slot.key same
    rw [failureKey_eq first, failureKey_eq second, kinds, keys]

end Subject

/-- What is done to the table of failures: a turn is settled, or the history of an object is started
over, as after a clean pass. -/
inductive Incident where
  | settled (turn : Turn)
  | reset (subject : Subject)

namespace Incident
variable {settings : Settings} {table full solo : FailureTable} {incident : Incident} {key : String}

def subject : Incident → Subject
  | .settled turn => turn.subject
  | .reset subject => subject

def settle (settings : Settings) (table : FailureTable) : Incident → Option Requeue × FailureTable
  | .settled turn =>
    let (requeue, table, _) := turn.subject.settle settings table turn.result
    (some requeue, table)
  | .reset subject => (none, table.forget subject.failureKey)

def reactions (settings : Settings) : FailureTable → List Incident →
    List (Incident × Option Requeue)
  | _, [] => []
  | table, incident :: rest =>
    let (requeue, table) := incident.settle settings table
    (incident, requeue) :: reactions settings table rest

def tableAfter (settings : Settings) (table : FailureTable) (incidents : List Incident) :
    FailureTable :=
  incidents.foldl (fun table incident => (incident.settle settings table).2) table

def concerns (incident : Incident) (r : Subject) : Bool := incident.subject.slot = r.slot

theorem get?_settle_of_ne (other : incident.subject.failureKey ≠ key) :
    Fields.get? (incident.settle settings table).2 key = Fields.get? table key := by
  have apart : ¬ key = incident.subject.failureKey := fun same => other same.symm
  cases incident with
  | reset subject => exact (table.get?_forget _ _).trans (if_neg apart)
  | settled turn =>
    obtain ⟨subject, result⟩ := turn
    cases result with
    | error error => exact (table.get?_countError settings _ _).trans (if_neg apart)
    | ok requeue =>
      cases subject with
      | managed i => exact (table.get?_forget _ _).trans (if_neg apart)
      | credential s => rfl

theorem settle_congr (incident : Incident) (settings : Settings)
    (same : Fields.get? full incident.subject.failureKey =
      Fields.get? solo incident.subject.failureKey) :
    (incident.settle settings full).1 = (incident.settle settings solo).1 ∧
      Fields.get? (incident.settle settings full).2 incident.subject.failureKey =
        Fields.get? (incident.settle settings solo).2 incident.subject.failureKey := by
  have histories : full.history settings incident.subject.failureKey =
      solo.history settings incident.subject.failureKey := by
    unfold FailureTable.history
    rw [same]
  have forgotten : Fields.get? (full.forget incident.subject.failureKey)
      incident.subject.failureKey = Fields.get? (solo.forget incident.subject.failureKey)
      incident.subject.failureKey := by
    rw [FailureTable.get?_forget, FailureTable.get?_forget, same]
  cases incident with
  | reset subject => exact ⟨rfl, forgotten⟩
  | settled turn =>
    obtain ⟨subject, result⟩ := turn
    cases result with
    | error error =>
      have histories : full.history settings subject.failureKey =
          solo.history settings subject.failureKey := histories
      simp [settle, Incident.subject, Subject.settle, FailureTable.delay,
        FailureTable.get?_countError, histories]
    | ok requeue =>
      cases subject with
      | managed i => exact ⟨rfl, forgotten⟩
      | credential s => exact ⟨rfl, same⟩

variable {r : Subject}

theorem reactions_cons (incident : Incident) (rest : List Incident) :
    reactions settings table (incident :: rest) =
      (incident, (incident.settle settings table).1) ::
        reactions settings (incident.settle settings table).2 rest := rfl

theorem tableAfter_cons (incident : Incident) (rest : List Incident) :
    tableAfter settings table (incident :: rest) =
      tableAfter settings (incident.settle settings table).2 rest := rfl

/-- Run beside run: under the key of `r` both tables hold the same. -/
theorem isolated_of_same (settings : Settings) (incidents : List Incident)
    (separate : ∀ incident ∈ incidents,
      incident.subject.failureKey = r.failureKey ↔ incident.concerns r = true)
    (same : Fields.get? full r.failureKey = Fields.get? solo r.failureKey) :
    (reactions settings full incidents).filter (·.1.concerns r) =
        reactions settings solo (incidents.filter (·.concerns r)) ∧
      Fields.get? (tableAfter settings full incidents) r.failureKey =
        Fields.get? (tableAfter settings solo (incidents.filter (·.concerns r))) r.failureKey := by
  induction incidents generalizing full solo with
  | nil => exact ⟨rfl, same⟩
  | cons incident rest ih =>
    have later := fun e member => separate e (List.mem_cons_of_mem incident member)
    have first := separate incident List.mem_cons_self
    rw [reactions_cons, tableAfter_cons, List.filter_cons, List.filter_cons]
    by_cases own : incident.concerns r = true
    · have key := first.mpr own
      rw [← key] at same
      obtain ⟨reaction, entry⟩ := settle_congr incident settings same
      rw [key] at entry
      obtain ⟨others, final⟩ := ih later entry
      rw [if_pos own, if_pos own, reactions_cons, tableAfter_cons, reaction, others]
      exact ⟨rfl, final⟩
    · have key : incident.subject.failureKey ≠ r.failureKey := fun equal => own (first.mp equal)
      rw [if_neg own, if_neg own]
      exact ih later ((get?_settle_of_ne key).trans same)

/-- What happens to other objects changes neither how long an object waits nor how many failures of
it are counted. -/
theorem isolated (settings : Settings) (table : FailureTable) (incidents : List Incident)
    (addressed : ∀ incident ∈ incidents, incident.subject.Addressed) {r : Subject}
    (own : r.Addressed) :
    (reactions settings table incidents).filter (·.1.concerns r) =
        reactions settings table (incidents.filter (·.concerns r)) ∧
      (tableAfter settings table incidents).errorCounts.get? r.failureKey =
        (tableAfter settings table (incidents.filter (·.concerns r))).errorCounts.get?
          r.failureKey := by
  have separate : ∀ incident ∈ incidents,
      incident.subject.failureKey = r.failureKey ↔ incident.concerns r = true := by
    intro incident member
    rw [Subject.failureKey_eq_iff (addressed incident member) own]
    simp [concerns]
  have start : Fields.get? table r.failureKey = Fields.get? table r.failureKey := rfl
  obtain ⟨reaction, entry⟩ := isolated_of_same settings incidents separate start
  refine ⟨reaction, ?_⟩
  rw [FailureTable.errorCounts, FailureTable.errorCounts, Fields.get?_mapValues,
    Fields.get?_mapValues, entry]

def namesake : Subject :=
  .managed
    { metadata := { name := some "telemetry-token", ns := some "observability" }
      spec := .agent {} }

def refused : TurnError :=
  .pass "NodeAgent" (.namespaced "observability" "telemetry-token")
    (.store (.request "refused"))

def outage : List Incident :=
  [.settled ⟨namesake, .error refused⟩, .settled ⟨.token, .error Subject.timeout⟩,
    .settled ⟨namesake, .error refused⟩, .settled ⟨.token, .error Subject.timeout⟩,
    .reset namesake, .settled ⟨.token, .error Subject.timeout⟩]

theorem namesake_leaves_token :
    (∀ incident ∈ outage, incident.subject.Addressed) ∧ Subject.token.Addressed ∧
    ((reactions {} [] outage).filter (·.1.concerns .token)).map (·.2) =
      [some (.after (.ofSecs 1)), some (.after (.ofSecs 1)), some (.after (.ofSecs 2))] ∧
    (tableAfter {} [] outage).errorCounts.get? Subject.token.failureKey = some 3 := by
  have own : Subject.token.Addressed := ⟨rfl, fun _ => rfl, by decide, by decide⟩
  have other : namesake.Addressed := ⟨rfl, fun _ => rfl, by decide, by decide⟩
  have addressed : ∀ incident ∈ outage, incident.subject.Addressed := by
    simp [outage, Incident.subject, own, other]
  obtain ⟨reaction, count⟩ := isolated {} [] outage addressed own
  have kept : outage.filter (·.concerns .token) =
      List.replicate 3 (.settled ⟨.token, .error Subject.timeout⟩) := rfl
  rw [kept] at reaction count
  refine ⟨addressed, own, ?_, ?_⟩
  · rw [reaction]
    rfl
  · rw [count]
    rfl

end Incident
end AgentOperator
