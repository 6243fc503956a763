import AgentOperator.Proofs.InstanceWrites
import AgentOperator.Proofs.StepConvergence
import AgentOperator.Proofs.StoreRace

/-!
A write of the cleanup marker among other writers. The object is sent as a whole, but as it was read
except for its finalizers, and the write goes through only if what is stored is what was read. So
nothing that others have written is lost, and once the marker is where it belongs there is nothing
left to write.
-/
namespace AgentOperator

namespace Object
variable {stored new : Object} {finalizers : List String}

/-- The same object with other finalizers, perhaps under another version. -/
structure Refinalized (old : Object) (finalizers : List String) (new : Object) : Prop where
  types : new.types = old.types
  metadata : new.metadata =
    { old.metadata with
      finalizers := some finalizers, resourceVersion := new.metadata.resourceVersion }
  members : ∀ name, new.data.get? name = old.data.get? name

theorem refinalized_of_takes
    (taken : Holdings.Takes stored (stored.withFinalizers finalizers) (some new)) :
    stored.Refinalized finalizers new := by
  cases taken with
  | kept version =>
    refine ⟨?types, ?metadata, ?members⟩
    case types =>
      show ((stored.withFinalizers finalizers).withStatus stored.status?).types = _
      cases stored.status? <;> rfl
    case metadata =>
      rw [withMetadata, Cluster.metadata_keepOwn_withFinalizers]
    case members =>
      intro name
      by_cases here : name = "status"
      · subst here
        exact (stored.withFinalizers finalizers).status?_withStatus_eq stored.status?
      · exact get?_withStatus here (stored.withFinalizers finalizers) stored.status?

theorem unheld_of_takes
    (taken : Holdings.Takes stored (stored.withFinalizers finalizers) none) :
    stored.metadata.deletionTimestamp ≠ none ∧ finalizers = [] := by
  cases taken with
  | released free =>
    rw [Cluster.isReleased, Cluster.metadata_keepOwn_withFinalizers, Bool.and_eq_true,
      List.isEmpty_iff] at free
    exact ⟨Metadata.isDeleting_iff.mp free.1, free.2⟩

end Object

namespace MarkerStep
variable {s : MarkerStep} {m : Metadata} {current new : Object} {finalizers : List String}
  {events : List Event} {result : StepResult}

theorem steady_of_rewrites (rewrites : s.Rewrites m finalizers)
    (rewritten : new.metadata.finalizers = some finalizers)
    (deletion : new.metadata.deletionTimestamp = m.deletionTimestamp) :
    s.amended? new = none := by
  unfold amended?
  split
  · rfl
  · next add =>
    obtain ⟨live, bare⟩ := MarkerTransition.of_eq_add_iff.mp add
    rw [rewritten, Option.getD_some] at bare
    rw [deletion] at live
    cases rewrites with
    | added _ _ => simp at bare
    | removed deleting _ => exact absurd live deleting
  · next remove =>
    obtain ⟨deleting, marked⟩ := MarkerTransition.of_eq_remove_iff.mp remove
    rw [rewritten, Option.getD_some] at marked
    rw [deletion] at deleting
    cases rewrites with
    | added live _ => exact absurd live deleting
    | removed _ _ => simp at marked

/-- An object is due to be written if it carries the marker exactly when it is being deleted: a live
one is yet to get it, a deleted one to lose it. -/
def Due (s : MarkerStep) (m : Metadata) : Prop :=
  s.marker ∈ m.finalizers.getD [] ↔ m.deletionTimestamp ≠ none

theorem exists_amended (due : s.Due current.metadata) :
    ∃ changed, s.amended? current = some changed := by
  unfold amended?
  split
  · next steady =>
    have notAdd : ¬ MarkerTransition.of current.metadata s.marker = .add := by simp [steady]
    have notRemove : ¬ MarkerTransition.of current.metadata s.marker = .remove := by simp [steady]
    rw [MarkerTransition.of_eq_add_iff] at notAdd
    rw [MarkerTransition.of_eq_remove_iff] at notRemove
    by_cases deleting : current.metadata.deletionTimestamp ≠ none
    · exact absurd ⟨deleting, due.mpr deleting⟩ notRemove
    · exact absurd ⟨not_not.mp deleting, mt due.mp deleting⟩ notAdd
  · exact ⟨_, rfl⟩
  · exact ⟨_, rfl⟩

theorem runs_of_steady (steady : s.amended? current = none) :
    s.run.Runs (.call (.get s.slot) (.ok current) :: events) result ↔
      events = [] ∧ result = .ok := by
  unfold MarkerStep.run
  simp only [Program.get_bind, Program.runs_call]
  constructor
  · rintro ⟨answer, rest, same, run⟩
    obtain ⟨call, rfl⟩ := List.cons.inj same
    cases call
    dsimp only at run
    rw [steady] at run
    exact Program.runs_pure.mp run
  · rintro ⟨rfl, rfl⟩
    refine ⟨_, _, rfl, ?_⟩
    dsimp only
    rw [steady]
    exact .done _

open Holdings in
theorem replaced_of_run {earlier later : List Event} {r : Resource} {answer : Object}
    (run : s.run.Runs (earlier ++ .call (.replace r) (.ok answer) :: later) result)
    {first before after : Holdings} (attends : first.Attends earlier before)
    (answered : before.Answers (.call (.replace r) (.ok answer)) after) :
    ∃ stored finalizers, before.held s.slot = some stored ∧
      s.Rewrites stored.metadata finalizers ∧ r = ⟨s.kind, stored.withFinalizers finalizers⟩ ∧
      Takes stored r.object (after.held s.slot) := by
  obtain ⟨current, rfl, amended⟩ := read_of_replace run
  have kind : r.kind = s.kind := by
    have member : Event.call (.replace r) (.ok answer) ∈
        [.call (.get s.slot) (.ok current)] ++ .call (.replace r) (.ok answer) :: later := by simp
    rcases run.sort_of_mem (Step.marker s).only_run member with read | ⟨object, written⟩
    · cases read
    · cases written
      rfl
  obtain ⟨finalizers, rewrites, changed⟩ := rewrites_of_amended amended
  obtain ⟨place, bound⟩ := attends.bound_of_read
  have slot : r.slot = s.slot := by
    show (⟨r.kind, r.object.key⟩ : Slot) = s.slot
    rw [kind, changed]
    exact congrArg (Slot.mk s.kind) place
  obtain ⟨stored, found, version, taken⟩ := answered.of_replace
  rw [slot] at found taken
  have same : stored = current := bound.only stored found (by rw [version, changed]; rfl)
  subst same
  refine ⟨stored, finalizers, found, rewrites, ?_, taken⟩
  rw [← changed, ← kind]

theorem not_replaced_of_failed {c : Call} {error : StoreError}
    (run : s.run.Runs events result) (failed : .call c (.error error) ∈ events) (r : Resource)
    (answer : Object) : .call (.replace r) (.ok answer) ∉ events := by
  intro replaced
  rcases runs_cases run with
    ⟨error, rfl⟩ | ⟨current, rfl, _⟩ | ⟨current, changed, reply, _, rfl, _⟩
  · simp at replaced
  · simp at replaced
  · simp only [List.mem_cons, List.not_mem_nil, or_false] at failed replaced
    rcases replaced with same | same
    · cases same
    · cases same
      rcases failed with same | same <;> cases same

theorem replaces_of_due {rest : List Event}
    (run : s.run.Runs (.call (.get s.slot) (.ok current) :: rest) result)
    (due : s.Due current.metadata) :
    ∃ finalizers reply, s.Rewrites current.metadata finalizers ∧
      rest = [.call (.replace ⟨s.kind, current.withFinalizers finalizers⟩) reply] ∧
      result = s.conclude reply := by
  rcases runs_cases run with
    ⟨error, same⟩ | ⟨_, same, steady⟩ | ⟨_, changed, reply, amended, same, ended⟩
  · cases same
  · cases same
    obtain ⟨changed, amended⟩ := exists_amended due
    rw [steady] at amended
    cases amended
  · cases same
    obtain ⟨finalizers, rewrites, rfl⟩ := rewrites_of_amended amended
    exact ⟨finalizers, reply, rewrites, rfl, ended⟩

/-- Whatever others do between the read and the write of the marker: a write that goes through
replaces what is stored by the same with the marker where it belongs and every other finalizer in
its order. The object goes only if no other finalizer holds it, and if it stays there is nothing
left to write. If a call fails, nothing has been changed. An object that is live and unmarked, or
deleting and marked, when it is read leads to a write. -/
theorem marker_write_loses_no_update (run : s.run.Runs events result) :
    (∀ earlier r answer later first before after,
      events = earlier ++ .call (.replace r) (.ok answer) :: later →
      Holdings.Attends first earlier before →
      Holdings.Answers before (.call (.replace r) (.ok answer)) after →
        ∃ stored finalizers, before.held s.slot = some stored ∧
          s.Rewrites stored.metadata finalizers ∧
          r = ⟨s.kind, stored.withFinalizers finalizers⟩ ∧
          (after.held s.slot = none →
            stored.metadata.deletionTimestamp ≠ none ∧ finalizers = []) ∧
          ∀ new, after.held s.slot = some new →
            stored.Refinalized finalizers new ∧
            ∀ events result, s.run.Runs (.call (.get s.slot) (.ok new) :: events) result ↔
              events = [] ∧ result = .ok) ∧
    (∀ c error, .call c (.error error) ∈ events →
      ∀ e ∈ events, ∀ before after : Holdings, before.Answers e after → after = before) ∧
    ∀ current rest, events = .call (.get s.slot) (.ok current) :: rest → s.Due current.metadata →
      ∃ finalizers reply, s.Rewrites current.metadata finalizers ∧
        rest = [.call (.replace ⟨s.kind, current.withFinalizers finalizers⟩) reply] ∧
        result = s.conclude reply := by
  refine ⟨?replaced, ?failed, ?due⟩
  case replaced =>
    rintro earlier r answer later first before after rfl attends answered
    obtain ⟨stored, finalizers, found, rewrites, written, taken⟩ :=
      replaced_of_run run attends answered
    rw [written] at taken
    refine ⟨stored, finalizers, found, rewrites, written, ?_, ?_⟩
    · intro gone
      rw [gone] at taken
      exact Object.unheld_of_takes taken
    · intro new kept
      rw [kept] at taken
      have refinalized := Object.refinalized_of_takes taken
      have listed := congrArg Metadata.finalizers refinalized.metadata
      have deletion := congrArg Metadata.deletionTimestamp refinalized.metadata
      have steady := steady_of_rewrites rewrites listed deletion
      exact ⟨refinalized, fun events result => runs_of_steady steady⟩
  case failed =>
    intro c error failed e member before after answered
    refine answered.unchanged ?_
    rintro r answer rfl
    exact not_replaced_of_failed run failed r answer member
  case due =>
    rintro current rest rfl due
    exact replaces_of_due run due

/-- An agent that others hold too, and that carries the marker twice. -/
def guarded : Object :=
  { metadata :=
      { name := some "telemetry", ns := some "observability"
        finalizers := some ["backup.io/hold", Conventions.cleanupMarker, "audit.io/hold",
          Conventions.cleanupMarker] }
    data := [("spec", .obj []), ("status", .obj [])] }

def guardedStep : MarkerStep :=
  ⟨.nodeAgent, .namespaced "observability" "telemetry", Conventions.cleanupMarker⟩

def guardedRead : Object :=
  guarded.withMetadata fun m =>
    { m with
      uid := some (Cluster.freshUid guardedStep.slot), generation := some 1
      deletionTimestamp := some ⟨0, 0⟩, resourceVersion := some "2" }

def others : List String := ["backup.io/hold", "audit.io/hold"]

def released : Resource := ⟨.nodeAgent, guardedRead.withFinalizers others⟩

def neighbour : Resource := ⟨.namespace, { metadata := { name := some "probes" } }⟩

def asked : Cluster :=
  ((({} : Cluster).create ⟨.nodeAgent, guarded⟩).2.delete ⟨0, 0⟩ guardedStep.slot).2

def joined : Cluster := (asked.create neighbour).2

def unmarked : Object :=
  guardedRead.withMetadata fun m =>
    { m with finalizers := some others, resourceVersion := some "4" }

theorem exists_guarded_race : ∃ first before after : Holdings,
    first.Attends [.call (.get guardedStep.slot) (.ok guardedRead)] before ∧
    before.Answers (.call (.replace released) (.ok unmarked)) after ∧
    before.held guardedStep.slot = some guardedRead ∧
    after.held guardedStep.slot = some unmarked := by
  have asking : ({} : Cluster).Serves
      [.call (.create ⟨.nodeAgent, guarded⟩) _, .call (.delete guardedStep.slot) _] asked :=
    .served (.refl _) ⟨0, 0⟩ rfl (.served (.refl _) ⟨0, 0⟩ rfl (.done _))
  have joining : asked.Serves [.call (.create neighbour) _] joined :=
    .served (.refl _) ⟨0, 0⟩ rfl (.done _)
  have read : asked.carryOut ⟨0, 0⟩ (.get guardedStep.slot) = (.ok guardedRead, asked) := rfl
  have answer : (joined.replace released).1 = .ok unmarked := rfl
  have replaced : joined.carryOut ⟨0, 0⟩ (.replace released) =
      (.ok unmarked, (joined.replace released).2) := congrArg (·, _) answer
  obtain ⟨soundAsked, asking⟩ := Cluster.sound_empty.others asking
  obtain ⟨_, reading⟩ := soundAsked.answers (Or.inl rfl) read
  obtain ⟨soundJoined, joining⟩ := soundAsked.others joining
  obtain ⟨soundReplaced, replacing⟩ := soundJoined.answers (Or.inr rfl) replaced
  exact ⟨_, _, _, .others asking (.own reading (.others joining (.done _))), replacing, rfl, rfl⟩

/-- The marker goes from an agent whose deletion was asked for, and the others keep their holds. -/
theorem guarded_keeps_other_holds :
    guardedStep.run.Runs [.call (.get guardedStep.slot) (.ok guardedRead),
        .call (.replace released) (.ok unmarked)] .stop ∧
    guardedStep.Due guardedRead.metadata ∧
    ∃ first before after,
      Holdings.Attends first [.call (.get guardedStep.slot) (.ok guardedRead)] before ∧
      before.Answers (.call (.replace released) (.ok unmarked)) after ∧
      after.held guardedStep.slot = some unmarked ∧ guardedRead.Refinalized others unmarked ∧
      guardedStep.run.Runs [.call (.get guardedStep.slot) (.ok unmarked)] .ok := by
  obtain ⟨first, before, after, attends, answered, found, kept⟩ := exists_guarded_race
  have run : guardedStep.run.Runs ([.call (.get guardedStep.slot) (.ok guardedRead)] ++
      .call (.replace released) (.ok unmarked) :: []) .stop :=
    .call _ (.call _ (.done _))
  have due : guardedStep.Due guardedRead.metadata :=
    iff_of_true (by simp [guardedRead, guarded, guardedStep, Object.withMetadata]) nofun
  obtain ⟨stored, finalizers, found', _, written, _, changes⟩ :=
    (marker_write_loses_no_update run).1 _ _ _ _ _ _ _ rfl attends answered
  obtain rfl : guardedRead = stored := Option.some.inj (found.symm.trans found')
  obtain ⟨refinalized, rerun⟩ := changes unmarked kept
  have same : some others = some finalizers :=
    congrArg (fun r => r.object.metadata.finalizers) written
  obtain rfl := Option.some.inj same
  exact ⟨run, due, first, before, after, attends, answered, kept, refinalized,
    (rerun [] .ok).mpr ⟨rfl, rfl⟩⟩

end MarkerStep
end AgentOperator
