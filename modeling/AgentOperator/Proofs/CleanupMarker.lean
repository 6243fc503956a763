import AgentOperator.Proofs.PassTrace

/-!
When a pass releases the cleanup marker. The steps of a pass are chosen from the copy that it was
given, the marker's transition from a fresh read. So a release comes after a complete cleanup if
that copy was being deleted already, and without any cleanup if the deletion came in between.
-/
namespace AgentOperator

/-- The deletion of what is kept there was asked for, and nothing was left to delete. -/
def Cleaned (events : List Event) (slot : Slot) : Prop :=
  ∃ answer, .call (.delete slot) answer ∈ events ∧ Deleted answer

namespace Instance
variable {i : Instance} {settings : Settings} {policy : RetryPolicy} {events : List Event}
  {outcome : Outcome} {step : Step}

theorem cases_of_apply (member : step ∈ i.applySteps settings) :
    (∃ resource onError, step = i.applyStep resource onError) ∨
      (∃ s, step = .provision s) ∨ ∃ s, step = .credential s := by
  unfold applySteps at member
  cases spec : i.spec with
  | agent spec =>
    simp only [spec, List.mem_cons, List.not_mem_nil, or_false] at member
    rcases member with rfl | rfl | rfl | rfl | rfl | rfl | rfl
    all_goals first
      | exact Or.inl ⟨_, _, rfl⟩
      | exact Or.inr (Or.inr ⟨_, rfl⟩)
  | scanner spec =>
    simp only [spec, List.mem_cons, List.not_mem_nil, or_false] at member
    rcases member with rfl | rfl | rfl | rfl | rfl | rfl
    all_goals first
      | exact Or.inl ⟨_, _, rfl⟩
      | exact Or.inr (Or.inl ⟨_, rfl⟩)

theorem cases_of_cleanup (member : step ∈ i.cleanupSteps settings) :
    ∃ resource, step = deleteStep resource .stop := by
  unfold cleanupSteps at member
  cases spec : i.spec with
  | agent spec =>
    simp only [spec, List.mem_cons, List.not_mem_nil, or_false] at member
    rcases member with rfl | rfl <;> exact ⟨_, rfl⟩
  | scanner spec =>
    simp only [spec, List.mem_cons, List.not_mem_nil, or_false] at member
    rcases member with rfl | rfl | rfl <;> exact ⟨_, rfl⟩

theorem exists_cleanup_binding (i : Instance) (settings : Settings) :
    ∃ s, .delete s ∈ i.cleanupSteps settings ∧ s.resource.slot.kind = .clusterRoleBinding := by
  unfold cleanupSteps
  cases i.spec with
  | agent spec => exact ⟨_, List.mem_cons_self, rfl⟩
  | scanner spec => exact ⟨_, List.mem_cons_self, rfl⟩

theorem kind_of_delete_of_apply (member : step ∈ i.applySteps settings) {slot : Slot}
    (call : step.mayCall (.delete slot)) : slot.kind = .secret := by
  rcases cases_of_apply member with ⟨resource, onError, rfl⟩ | ⟨s, rfl⟩ | ⟨s, rfl⟩
  · obtain ⟨r, _, same⟩ := call
    cases same
  · rcases call with same | same <;> cases same
  · rcases call with same | same | same | ⟨r, same, _⟩ | same
    · cases same
    · cases same
    · cases same
    · cases same
    · cases same
      rfl

theorem verb_of_own {c : Call} (member : step ∈ i.ownSteps settings) (call : step.mayCall c) :
    c.verb ≠ .replace ∧ c.verb ≠ .replaceStatus := by
  unfold ownSteps at member
  split at member
  · obtain ⟨resource, rfl⟩ := cases_of_cleanup member
    obtain rfl : c = _ := call
    simp [Call.verb]
  · rcases cases_of_apply member with ⟨resource, onError, rfl⟩ | ⟨s, rfl⟩ | ⟨s, rfl⟩
    · obtain ⟨r, _, rfl⟩ := call
      simp [Call.verb]
    · rcases call with rfl | rfl <;> simp [Call.verb]
    · rcases call with rfl | rfl | request | ⟨r, rfl, _⟩ | rfl
      · simp [Call.verb]
      · simp [Call.verb]
      · simp [request]
      · simp [Call.verb]
      · simp [Call.verb]

theorem replace_of_pass (run : (i.pass settings policy).Runs events outcome)
    {before after : List Event} {written : Resource} {answer : Except StoreError Object}
    (split : events = before ++ .call (.replace written) answer :: after) :
    ∃ own current reached, before = own ++ [.call (.get i.markerStep.slot) (.ok current)] ∧
      i.markerStep.amended? current = some written.object ∧ reached.schedule = .idle ∧
      (i.ownProgram settings).Runs own reached := by
  rcases pass_parts run with rfl | ⟨own, marker, status, rfl, parts⟩
  · simp at split
  · rcases Event.split_append split with ⟨rest, body⟩ | ⟨rest, rfl, same⟩
    · rcases Event.split_append body with ⟨rest, rfl⟩ | ⟨rest, rfl, rfl⟩
      · exact absurd rfl (parts.own_of_mem (·.verb ≠ .replace)
          (fun step member c call => (verb_of_own member call).1)
          (List.mem_append_right before List.mem_cons_self))
      · obtain ⟨reached, ownRun, last⟩ := parts.own_marker
        rcases last with none | ⟨idle, result, marking⟩
        · simp at none
        · obtain ⟨current, rfl, amended⟩ := MarkerStep.read_of_replace marking
          exact ⟨own, current, reached, rfl, amended, idle, ownRun⟩
    · have member : Event.call (.replace written) answer ∈ status := by simp [same]
      rcases parts.status_of_mem member with ⟨slot, e⟩ | ⟨object, e⟩ <;> cases e

theorem cleaned_of_deleting (deleting : i.metadata.isDeleting = true)
    (run : (i.ownProgram settings).Runs events outcome) (idle : outcome.schedule = .idle)
    {s : DeleteStep} (member : .delete s ∈ i.cleanupSteps settings) :
    Cleaned events s.resource.slot := by
  have cleaning : i.ownSteps settings = i.cleanupSteps settings := if_pos deleting
  rw [ownProgram, cleaning] at run
  obtain ⟨before, own, after, result, rfl, ownRun, proceeds⟩ :=
    Pass.proceeded_of_idle run idle (List.mem_map.mpr ⟨_, member, rfl⟩)
  obtain ⟨answer, rfl, rfl⟩ := DeleteStep.runs_iff.mp ownRun
  obtain ⟨resource, same⟩ := cases_of_cleanup member
  obtain rfl := Step.delete.inj same
  exact ⟨answer, by simp, DeleteStep.deleted_of_proceed (by simp) proceeds⟩

theorem kind_of_delete_of_live (live : i.metadata.isDeleting = false)
    (run : (i.ownProgram settings).Runs events outcome)
    {slot : Slot} {answer : Except StoreError Unit}
    (member : .call (.delete slot) answer ∈ events) : slot.kind = .secret := by
  have applying : i.ownSteps settings = i.applySteps settings := if_neg (by simp [live])
  rw [ownProgram, applying] at run
  have only : (Pass.runFrom settings.requeueDelay none ((i.applySteps settings).map Step.run)).Only
      fun c => ∀ slot, c = .delete slot → slot.kind = .secret := by
    refine Pass.only_runFrom ?_
    intro program inSteps
    obtain ⟨step, stepIn, rfl⟩ := List.mem_map.mp inSteps
    refine step.only_run.mono ?_
    rintro c call slot rfl
    exact kind_of_delete_of_apply stepIn call
  exact run.sort_of_mem only member slot rfl

theorem deleting_of_cleaned (run : (i.ownProgram settings).Runs events outcome)
    (cleaned : ∀ s, .delete s ∈ i.cleanupSteps settings → Cleaned events s.resource.slot) :
    i.metadata.isDeleting = true := by
  -- the binding is part of every cleanup, and steps over a live copy do not delete it
  obtain ⟨s, member, binding⟩ := exists_cleanup_binding i settings
  obtain ⟨answer, called, _⟩ := cleaned s member
  cases deleting : i.metadata.isDeleting with
  | true => rfl
  | false =>
    have secret := kind_of_delete_of_live deleting run called
    rw [binding] at secret
    cases secret

/-- A pass that releases the marker, because the fresh read shows a deletion, has cleaned up before
exactly if the copy that it was given showed the deletion too. -/
theorem cleaned_before_release_iff (run : (i.pass settings policy).Runs events outcome)
    {before after : List Event} {written : Resource} {answer : Except StoreError Object}
    (release : events = before ++ .call (.replace written) answer :: after)
    (bare : written.object.metadata.hasMarker Conventions.cleanupMarker = false) :
    (∃ earlier current, before = earlier ++ [.call (.get ⟨i.kind, i.key⟩) (.ok current)] ∧
      current.metadata.isDeleting = true ∧
      current.metadata.hasMarker Conventions.cleanupMarker = true) ∧
    ((∀ s, .delete s ∈ i.cleanupSteps settings → Cleaned before s.resource.slot) ↔
      i.metadata.isDeleting = true) := by
  obtain ⟨own, current, reached, rfl, amended, idle, steps⟩ := replace_of_pass run release
  refine ⟨⟨own, current, rfl, MarkerStep.not_hasMarker_of_amended amended bare⟩, ?_, ?_⟩
  · intro cleaned
    refine deleting_of_cleaned steps ?_
    intro s member
    obtain ⟨deletion, called, deleted⟩ := cleaned s member
    exact ⟨deletion, by simpa using called, deleted⟩
  · intro deleting s member
    obtain ⟨deletion, called, deleted⟩ := cleaned_of_deleting deleting steps idle member
    exact ⟨deletion, List.mem_append_left _ called, deleted⟩

def leaving : Object :=
  { metadata :=
      { name := some "telemetry", ns := some "observability", uid := some "agent-uid"
        deletionTimestamp := some ⟨0, 0⟩, finalizers := some [Conventions.cleanupMarker] } }

def leavingAgent : Instance := { metadata := leaving.metadata, spec := .agent {} }

def staleAgent : Instance :=
  { metadata := { leaving.metadata with deletionTimestamp := none }, spec := .agent {} }

def gone : StoreError := .notFound "NodeAgent observability/telemetry not found"

theorem leavingAgent_cleaned_before_release :
    ∃ before written answer after outcome,
      (leavingAgent.pass {} {}).Runs (before ++ .call (.replace written) answer :: after) outcome ∧
      written.object.metadata.hasMarker Conventions.cleanupMarker = false ∧
      ∀ s, .delete s ∈ leavingAgent.cleanupSteps {} → Cleaned before s.resource.slot := by
  have run : (leavingAgent.pass {} {}).Runs
      ([.call (.delete _) (.ok ()), .call (.delete _) (.ok ()), .call (.get _) (.ok leaving)] ++
        .call (.replace _) (.ok leaving) :: [.call (.get _) (.error gone)]) ⟨.soon, none⟩ :=
    .call _ (.call _ (.call _ (.call _ (.call _ (.done _)))))
  exact ⟨_, _, _, _, _, run, rfl, (cleaned_before_release_iff run rfl rfl).2.mpr rfl⟩

theorem staleAgent_released_without_cleanup :
    ∃ before written answer after outcome,
      (staleAgent.pass {} {}).Runs
        (before ++ .call (.get ⟨.nodeAgent, leaving.key⟩) (.ok leaving) ::
          .call (.replace written) answer :: after) outcome ∧
      leaving.metadata.hasMarker Conventions.cleanupMarker = true ∧
      written.object.metadata.hasMarker Conventions.cleanupMarker = false ∧
      ∃ s, .delete s ∈ staleAgent.cleanupSteps {} ∧ ¬ Cleaned before s.resource.slot := by
  have run : (staleAgent.pass {} {}).Runs
      ([.call (.apply _ _ _) (.ok leaving), .call (.apply _ _ _) (.ok leaving),
          .call (.apply _ _ _) (.ok leaving), .call (.apply _ _ _) (.ok leaving),
          .call (.apply _ _ _) (.ok leaving), .call (.apply _ _ _) (.ok leaving),
          .call (.delete _) (.ok ())] ++
        .call (.get _) (.ok leaving) :: .call (.replace _) (.ok leaving) ::
          [.call (.get _) (.error gone)]) ⟨.soon, none⟩ :=
    .call _ (.call _ (.call _ (.call _ (.call _ (.call _ (.call _ (.call _ (.call _ (.call _
      (.done _))))))))))
  refine ⟨_, _, _, _, _, run, rfl, rfl, _, List.mem_cons_self, ?_⟩
  rintro ⟨deletion, member, _⟩
  simp only [List.mem_cons, List.not_mem_nil, or_false, Event.call.injEq, reduceCtorEq, false_and,
    false_or, Call.delete.injEq] at member
  have kinds := congrArg Slot.kind member.1
  cases kinds

end Instance
end AgentOperator
