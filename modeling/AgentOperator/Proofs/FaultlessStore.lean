import AgentOperator.Proofs.AgentStored
import AgentOperator.Proofs.StepResults
import AgentOperator.Proofs.WorldTrace

/-!
A store that never fails: every call is carried out, and answered as the cluster has it. So a
deletion is always done, the marker is always written if it has to be, and a world without rules for
failures is such a store.
-/
namespace AgentOperator

namespace Event

def Silent (e : Event) : Prop := ∀ (call : Call) (answer : call.Answer), e ≠ .call call answer

end Event

namespace Cluster

/-- Every call is carried out. -/
inductive Obeys : Cluster → List Event → Cluster → Prop where
  | done (c : Cluster) : Obeys c [] c
  | carried {b c d c' : Cluster} {call : Call} {answer : call.Answer} {rest : List Event}
      (alike : b.Alike c) (now : Timestamp) (carried : b.carryOut now call = (answer, d))
      (later : Obeys d rest c') : Obeys c (.call call answer :: rest) c'
  | silent {b c c' : Cluster} {e : Event} {rest : List Event} (alike : b.Alike c)
      (silent : e.Silent) (later : Obeys b rest c') : Obeys c (e :: rest) c'

variable {c c' c'' d : Cluster} {slot other : Slot} {stored : Object} {r : Resource}
  {events first last rest : List Event} {call : Call} {answer : call.Answer}

theorem find?_create_of_present (r : Resource) (present : (c.find? slot).isSome) :
    (c.create r).2.find? slot = c.find? slot := by
  unfold create
  split
  · rfl
  · next absent =>
    refine find?_write_of_ne ?_ _
    rintro rfl
    rw [absent] at present
    cases present

theorem create_absent (absent : c.find? r.slot = none) :
    c.create r = (.ok (c.insert r).1, (c.insert r).2) := by
  unfold create
  rw [absent]

theorem find?_insert (c : Cluster) (r : Resource) :
    ∃ o, (c.insert r).2.find? r.slot = some o ∧
      o.metadata.key = r.object.metadata.key ∧
      o.metadata.ownerReferences = r.object.metadata.ownerReferences ∧
      o.metadata.finalizers = r.object.metadata.finalizers ∧
      o.metadata.isDeleting = r.object.metadata.isDeleting ∧ o.data = r.object.data :=
  ⟨_, find?_write_self c r.slot _, rfl, rfl, rfl, rfl, rfl⟩

namespace Serves

theorem find?_eq_of_creates (free : c.Free slot) (present : (c.find? slot).isSome)
    (serves : Serves c events c')
    (creates : ∀ call answer, Event.call call answer ∈ events → call.writes slot →
      ∃ r, call = .create r) : c'.find? slot = c.find? slot := by
  refine serves.keeps (P := fun d => d.find? slot = c.find? slot)
    (fun b d alike same => (alike.find? slot).trans same) ?_ creates rfl
  intro d now call creates same
  by_cases writes : call.writes slot
  · obtain ⟨r, isCreate⟩ := creates writes
    rw [isCreate, ← same]
    rw [← same] at present
    exact find?_create_of_present r present
  · rw [find?_carryOut_of_not_writes now (free.congr same) writes, same]

theorem plain_of_created {o : Object} (plain : r.object.Plain) (serves : Serves c events c')
    (creates : ∀ call answer, Event.call call answer ∈ events → call.writes r.slot →
      ∃ r', call = .create r')
    (created : .call (.create r) (.ok o) ∈ events) :
    ∃ o', c'.find? r.slot = some o' ∧ o'.Plain := by
  obtain ⟨before, after, rfl⟩ := List.append_of_mem created
  obtain ⟨c₁, _, tail⟩ := serves.split
  cases tail with
  | @served b _ d _ _ _ _ alike now carried later =>
    have absent : b.find? r.slot = none := by
      cases found : b.find? r.slot with
      | none => rfl
      | some object => simp [carryOut, Cluster.create, found] at carried
    have inserted : d = (b.insert r).2 := by
      have done : b.create r = (.ok o, d) := carried
      rw [create_absent absent] at done
      exact (congrArg Prod.snd done).symm
    obtain ⟨o', found, _, owners, finalizers, _⟩ := b.find?_insert r
    rw [← inserted] at found
    have isPlain : o'.Plain := by
      refine ⟨?_, ?_⟩
      · rw [Object.Unowned, owners]
        exact plain.1
      · rw [finalizers]
        exact plain.2
    have free : d.Free r.slot := (PlainAt.of_found found isPlain).free
    refine ⟨o', ?_, isPlain⟩
    rw [later.find?_eq_of_creates free (by rw [found]; rfl), found]
    intro call answer called
    exact creates call answer (List.mem_append_right _ (List.mem_cons_of_mem _ called))
  | skipped alike idle later => exact absurd trivial idle

end Serves

namespace Obeys

theorem serves (obeys : Obeys c events c') : Serves c events c' := by
  induction obeys with
  | done c => exact .done c
  | carried alike now carried later ih => exact .served alike now carried ih
  | @silent b c c' e rest alike silent later ih =>
    refine .skipped alike ?_ ih
    intro succeeds
    cases e with
    | call call answer => exact silent call answer rfl
    | _ => exact succeeds

theorem split (obeys : Obeys c (first ++ last) c'') :
    ∃ c', Obeys c first c' ∧ Obeys c' last c'' := by
  induction first generalizing c with
  | nil => exact ⟨c, .done c, obeys⟩
  | cons e first ih =>
    cases obeys with
    | carried alike now carried later =>
      obtain ⟨c', head, tail⟩ := ih later
      exact ⟨c', .carried alike now carried head, tail⟩
    | silent alike silent later =>
      obtain ⟨c', head, tail⟩ := ih later
      exact ⟨c', .silent alike silent head, tail⟩

theorem of_call (obeys : Obeys c (.call call answer :: rest) c') :
    ∃ (b : Cluster) (now : Timestamp), b.Alike c ∧ answer = (b.carryOut now call).1 ∧
      Obeys (b.carryOut now call).2 rest c' := by
  cases obeys with
  | @carried b _ d _ _ _ _ alike now carried later =>
    exact ⟨b, now, alike, by rw [carried], by rw [carried]; exact later⟩
  | silent alike silent later => exact absurd rfl (silent call answer)

theorem exists_run_at {α : Type} (moment : Moment) (c : Cluster) (p : Program α) :
    ∃ events value c', p.Runs events value ∧ Obeys c events c' ∧
      ∀ looked, .clock looked ∈ events → looked = moment := by
  induction p generalizing c with
  | done value => exact ⟨[], value, c, .done value, .done c, by simp⟩
  | call call next ih =>
    obtain ⟨events, value, c', run, obeys, clock⟩ :=
      ih (c.carryOut moment.wall call).1 (c.carryOut moment.wall call).2
    exact ⟨_, value, c', .call _ run, .carried (.refl c) moment.wall rfl obeys,
      by simpa using clock⟩
  | clock next ih =>
    obtain ⟨events, value, c', run, obeys, clock⟩ := ih moment c
    exact ⟨_, value, c', .clock _ run, .silent (.refl c) (fun _ _ => nofun) obeys,
      by simpa using clock⟩
  | sleep span next ih =>
    obtain ⟨events, value, c', run, obeys, clock⟩ := ih c
    exact ⟨_, value, c', .sleep span run, .silent (.refl c) (fun _ _ => nofun) obeys,
      by simpa using clock⟩
  | measure m next ih =>
    obtain ⟨events, value, c', run, obeys, clock⟩ := ih c
    exact ⟨_, value, c', .measure m run, .silent (.refl c) (fun _ _ => nofun) obeys,
      by simpa using clock⟩

theorem exists_run {α : Type} (c : Cluster) (p : Program α) :
    ∃ events value c', p.Runs events value ∧ Obeys c events c' := by
  obtain ⟨events, value, c', run, obeys, _⟩ := exists_run_at ⟨⟨0, 0⟩, .zero⟩ c p
  exact ⟨events, value, c', run, obeys⟩

theorem answer_of_mem (obeys : Obeys c events c') (called : .call call answer ∈ events) :
    ∃ (b : Cluster) (now : Timestamp), answer = (b.carryOut now call).1 := by
  obtain ⟨before, after, rfl⟩ := List.append_of_mem called
  obtain ⟨_, _, tail⟩ := obeys.split
  obtain ⟨b, now, _, same, _⟩ := tail.of_call
  exact ⟨b, now, same⟩

theorem deleted {answer : Except StoreError Unit} (obeys : Obeys c events c')
    (called : .call (.delete slot) answer ∈ events) : Deleted answer := by
  obtain ⟨b, now, rfl⟩ := obeys.answer_of_mem called
  show Deleted (b.delete now slot).1
  unfold Cluster.delete
  split
  · exact Or.inr ⟨_, rfl⟩
  · split
    · exact Or.inl rfl
    · split <;> exact Or.inl rfl

theorem of_get {answer : Except StoreError Object} (found : c.find? slot = some stored)
    (obeys : Obeys c (.call (.get slot) answer :: rest) c') :
    ∃ b : Cluster, b.Alike c ∧ answer = .ok stored ∧ Obeys b rest c' := by
  obtain ⟨b, now, alike, same, later⟩ := obeys.of_call
  refine ⟨b, alike, ?_, later⟩
  rw [same]
  show b.get slot = _
  rw [Cluster.get, alike.find? slot, found]

end Obeys

theorem frame_carryOut (c : Cluster) (now : Timestamp) (call : Call) :
    ∃ inventory version, (c.carryOut now call).2 = { c with inventory, version } := by
  cases call with
  | get s => exact ⟨_, _, rfl⟩
  | requestToken account request => exact ⟨_, _, rfl⟩
  | create r =>
    show ∃ _ _, (c.create r).2 = _
    unfold Cluster.create
    split <;> exact ⟨_, _, rfl⟩
  | replace r =>
    show ∃ _ _, (c.replace r).2 = _
    unfold Cluster.replace
    split
    · exact ⟨_, _, rfl⟩
    · dsimp only
      split <;> exact ⟨_, _, rfl⟩
  | replaceStatus r =>
    show ∃ _ _, (c.replaceStatus r).2 = _
    unfold Cluster.replaceStatus
    split <;> exact ⟨_, _, rfl⟩
  | delete s =>
    show ∃ _ _, (c.delete now s).2 = _
    unfold Cluster.delete
    split
    · exact ⟨_, _, rfl⟩
    · split
      · exact ⟨_, _, rfl⟩
      · split <;> exact ⟨_, _, rfl⟩
  | apply r manager force =>
    show ∃ _ _, (c.apply r).2 = _
    unfold Cluster.apply
    split <;> exact ⟨_, _, rfl⟩

theorem faults_carryOut (c : Cluster) (now : Timestamp) (call : Call) :
    (c.carryOut now call).2.faults = c.faults := by
  obtain ⟨_, _, same⟩ := c.frame_carryOut now call
  rw [same]

theorem revives_carryOut (c : Cluster) (now : Timestamp) (call : Call) :
    (c.carryOut now call).2.revives = c.revives := by
  obtain ⟨_, _, same⟩ := c.frame_carryOut now call
  rw [same]

theorem perform_of_faultless (c : Cluster) (now : Timestamp) (call : Call) (none : c.faults = []) :
    ∃ b : Cluster, b.Alike c ∧ b.faults = [] ∧ c.perform now call = b.carryOut now call := by
  refine ⟨if call.verb = .requestToken then { c with tokens := c.tokens + 1 } else c, ?_, ?_, ?_⟩
  · split <;> exact ⟨rfl, rfl, rfl⟩
  · split <;> exact none
  · obtain ⟨inventory, version, tokens, faults⟩ := c
    obtain rfl : faults = [] := none
    unfold perform
    split <;> simp [FaultRule.consult]

end Cluster

namespace World
variable {α : Type}

theorem obeys_events (w : World) (p : Program α) (none : w.cluster.faults = []) :
    w.cluster.Obeys (w.events p) (w.run p).2.cluster := by
  induction p generalizing w with
  | done value => exact .done w.cluster
  | call c next ih =>
    obtain ⟨b, alike, faultless, carried⟩ := w.cluster.perform_of_faultless w.now c none
    have still : (w.perform c).2.cluster.faults = [] := by
      show (w.cluster.perform w.now c).2.faults = []
      rw [carried, Cluster.faults_carryOut, faultless]
    exact .carried alike w.now carried.symm (ih _ _ still)
  | clock next ih => exact .silent (.refl _) (fun _ _ => nofun) (ih _ _ none)
  | sleep span next ih =>
    have still (time : Duration) : (w.advance time).cluster.faults = [] := none
    exact .silent (w.alike_advance _) (fun _ _ => nofun) (ih _ (still _))
  | measure m next ih =>
    exact .silent (.refl _) (fun _ _ => nofun) (ih { w with metrics := w.metrics.add m } none)

end World

theorem MarkerStep.rewritten_of_obeys {s : MarkerStep} {c c' : Cluster} {events : List Event}
    {result : StepResult} {stored changed : Object} (found : c.find? s.slot = some stored)
    (key : stored.metadata.key = s.key) (amended : s.amended? stored = some changed)
    (run : s.run.Runs events result) (obeys : c.Obeys events c') : s.Rewritten stored c' := by
  rcases runs_cases run with
    ⟨error, rfl⟩ | ⟨current, rfl, steady⟩ | ⟨current, changed', answer, same, rfl, _⟩
  · obtain ⟨_, _, answered, _⟩ := obeys.of_get found
    cases answered
  · obtain ⟨_, _, answered, _⟩ := obeys.of_get found
    obtain rfl := Except.ok.inj answered
    rw [steady] at amended
    cases amended
  · obtain ⟨b, alike, answered, later⟩ := obeys.of_get found
    obtain rfl := Except.ok.inj answered
    obtain ⟨b', now, alike', _, last⟩ := later.of_call
    have foundThere : b'.find? s.slot = some current := by
      rw [alike'.find? s.slot, alike.find? s.slot, found]
    cases last
    exact rewritten_of_replace foundThere key same

theorem Instance.marker_of_cleanup {i : Instance} {settings : Settings} {policy : RetryPolicy}
    {events : List Event} {outcome : Outcome} {c c' : Cluster}
    (deleting : i.metadata.isDeleting = true)
    (marked : i.metadata.hasMarker Conventions.cleanupMarker = true)
    (run : (i.pass settings policy).Runs events outcome) (obeys : c.Obeys events c') :
    ∃ own marker status reached result, events = own ++ marker ++ status ∧
      (i.ownProgram settings).Runs own reached ∧ reached.schedule = .idle ∧
      i.markerStep.run.Runs marker result ∧
      ∀ call answer, Event.call call answer ∈ status →
        (i.statusWriter settings policy).mayCall call := by
  rcases pass_results run with
    ⟨_, bare, _⟩ | ⟨body, status, results, written, rfl, ran, writing, _⟩
  · rw [marked] at bare
    cases bare
  · have split : (i.steps settings).map Step.run =
        (i.cleanupSteps settings).map Step.run ++ [i.markerStep.run] := by
      simp [Instance.steps, deleting, Step.run]
    rw [split] at ran
    rcases Pass.ran_append ran with ⟨short, r, member, ends⟩ |
      ⟨own, marker, early, late, rfl, rfl, head, proceed, tail⟩
    · obtain ⟨program, inSteps, part, stepRun, within⟩ := short.exists_step_of_result member
      obtain ⟨step, isStep, rfl⟩ := List.mem_map.mp inSteps
      obtain ⟨resource, rfl⟩ := cases_of_cleanup isStep
      obtain ⟨answer, rfl, rfl⟩ := DeleteStep.runs_iff.mp stepRun
      have called := within _ (List.mem_singleton_self _)
      have deleted := obeys.deleted (List.mem_append_left status called)
      rw [DeleteStep.conclude_of_deleted _ deleted] at ends
      exact absurd rfl ends
    · have cleaning : i.ownSteps settings = i.cleanupSteps settings := if_pos deleting
      have ownRun : (i.ownProgram settings).Runs own
          (Pass.conclude settings.requeueDelay none early) := by
        rw [ownProgram, cleaning]
        exact Pass.runs_runFrom_iff.mpr ⟨early, head, rfl⟩
      obtain ⟨result, markerRun⟩ : ∃ result, i.markerStep.run.Runs marker result := by
        cases tail with
        | proceeded stepRun proceeds after =>
          cases after
          rw [List.append_nil]
          exact ⟨_, stepRun⟩
        | ended stepRun ends => exact ⟨_, stepRun⟩
      exact ⟨own, marker, status, _, result, rfl, ownRun,
        Pass.conclude_of_proceed settings.requeueDelay none proceed, markerRun,
        fun call answer called => writing.sort_of_mem (StatusWriter.only_run _ _) called⟩

end AgentOperator
