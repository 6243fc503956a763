import AgentOperator.Proofs.CleanupMarker
import AgentOperator.Proofs.Storage

/-!
What a pass over an agent does to the cluster that serves it, at three slots: that of the agent and
those of its role and role binding, which no owner reference reaches. A live agent stays; one that
is being deleted goes only after the deletion of both others was answered as done.
-/
namespace AgentOperator

structure AgentId where
  ns : String
  name : String
  deriving DecidableEq, Repr

namespace AgentId

def slot (a : AgentId) : Slot := ⟨.nodeAgent, .namespaced a.ns a.name⟩

def clusterName (a : AgentId) : String := "node-agent-" ++ a.ns ++ "-" ++ a.name

def role (a : AgentId) : Slot := ⟨.clusterRole, .cluster a.clusterName⟩

def binding (a : AgentId) : Slot := ⟨.clusterRoleBinding, .cluster a.clusterName⟩

/-- What has to be deleted with the agent. -/
def guarded (a : AgentId) : List Slot := [a.binding, a.role]

variable {a : AgentId} {i : Instance} {settings : Settings} {policy : RetryPolicy}
  {events : List Event} {outcome : Outcome} {g s : Slot} {step : Step} {c : Call}

theorem kind_of_guarded (member : g ∈ a.guarded) :
    g.kind = .clusterRoleBinding ∨ g.kind = .clusterRole := by
  rcases List.mem_cons.mp member with rfl | last
  · exact Or.inl rfl
  · obtain rfl := List.mem_singleton.mp last
    exact Or.inr rfl

theorem binding_ne_role (a : AgentId) : a.binding ≠ a.role := by
  intro same
  cases congrArg Slot.kind same

theorem exists_spec (copy : i.markerStep.slot = a.slot) : ∃ spec, i.spec = .agent spec := by
  have kind : i.kind = .nodeAgent := congrArg Slot.kind copy
  unfold Instance.kind at kind
  cases isAgent : i.spec with
  | agent spec => exact ⟨spec, rfl⟩
  | scanner spec =>
    rw [isAgent] at kind
    cases kind

theorem ns_of_copy (copy : i.markerStep.slot = a.slot) : i.metadata.ns = some a.ns :=
  congrArg (fun slot : Slot => slot.key.ns) copy

theorem name_of_copy (copy : i.markerStep.slot = a.slot) : i.metadata.name.getD "" = a.name :=
  congrArg (fun slot : Slot => slot.key.name) copy

theorem clusterName_of_copy (copy : i.markerStep.slot = a.slot) (settings : Settings) :
    (Blueprint.ofInstance i settings).clusterName = a.clusterName := by
  obtain ⟨spec, isAgent⟩ := exists_spec copy
  simp [Blueprint.ofInstance, isAgent, Blueprint.ofAgent, clusterName, ns_of_copy copy,
    name_of_copy copy]

theorem cleanupSteps_of_copy (copy : i.markerStep.slot = a.slot) (settings : Settings) :
    ∃ b r, i.cleanupSteps settings =
        [Instance.deleteStep b .stop, Instance.deleteStep r .stop] ∧
      b.slot = a.binding ∧ r.slot = a.role := by
  obtain ⟨spec, isAgent⟩ := exists_spec copy
  have name := clusterName_of_copy copy settings
  refine ⟨_, _, by unfold Instance.cleanupSteps; rw [isAgent], ?_, ?_⟩
  · show (⟨.clusterRoleBinding, ⟨none, _⟩⟩ : Slot) = _
    rw [binding, ← name]
    rfl
  · show (⟨.clusterRole, ⟨none, _⟩⟩ : Slot) = _
    rw [role, ← name]
    rfl

theorem eq_resource_of_desired {s : ApplyStep} {r : Resource} (desired : s.desired? = some r)
    (foreign : s.owner.sharesScope s.resource.object.metadata.ns = false) : r = s.resource := by
  rcases ApplyStep.cases_of_desired desired with ⟨_, same⟩ | ⟨_, _, shares, _⟩
  · exact same
  · rw [foreign] at shares
    cases shares

theorem not_sharesScope (copy : i.markerStep.slot = a.slot) :
    (Owner.ofInstance i).sharesScope none = false := by
  have ns : (Owner.ofInstance i).ident.key.ns = some a.ns := ns_of_copy copy
  simp [Owner.sharesScope, ns]

theorem slot_of_apply {resource : Resource} {onError : Action}
    (call : (i.applyStep resource onError).mayCall c) (writes : c.writes s) :
    resource.slot = s := by
  obtain ⟨r, desired, rfl⟩ := call
  have same : r.slot = resource.slot := ApplyStep.slot_of_desired desired
  exact same.symm.trans writes.1

theorem appliesPlain_of_apply (copy : i.markerStep.slot = a.slot) {resource : Resource}
    {onError : Action} (call : (i.applyStep resource onError).mayCall c)
    (plain : resource.object.Plain) (cluster : resource.object.metadata.ns = none) :
    c.AppliesPlain := by
  obtain ⟨r, desired, rfl⟩ := call
  have foreign := not_sharesScope copy
  rw [← cluster] at foreign
  obtain rfl := eq_resource_of_desired desired foreign
  exact ⟨_, _, _, rfl, plain⟩

def collectedKinds : List Kind := [.serviceAccount, .configMap, .service, .daemonSet, .secret]

theorem kind_of_write (copy : i.markerStep.slot = a.slot) (member : step ∈ i.applySteps settings)
    (call : step.mayCall c) (writes : c.writes s) :
    s.kind ∈ collectedKinds ∨
      (s.kind = .clusterRoleBinding ∨ s.kind = .clusterRole) ∧ c.AppliesPlain := by
  obtain ⟨spec, isAgent⟩ := exists_spec copy
  have account : Kind.serviceAccount ∈ collectedKinds := by decide
  have config : Kind.configMap ∈ collectedKinds := by decide
  have service : Kind.service ∈ collectedKinds := by decide
  have workload : Kind.daemonSet ∈ collectedKinds := by decide
  have secret : Kind.secret ∈ collectedKinds := by decide
  unfold Instance.applySteps at member
  simp only [isAgent, List.mem_cons, List.not_mem_nil, or_false] at member
  rcases member with rfl | rfl | rfl | rfl | rfl | rfl | rfl
  · obtain rfl := slot_of_apply call writes
    exact Or.inl account
  · obtain rfl := slot_of_apply call writes
    exact Or.inr ⟨Or.inr rfl, appliesPlain_of_apply copy call ⟨rfl, rfl⟩ rfl⟩
  · obtain rfl := slot_of_apply call writes
    exact Or.inr ⟨Or.inl rfl, appliesPlain_of_apply copy call ⟨rfl, rfl⟩ rfl⟩
  · obtain rfl := slot_of_apply call writes
    exact Or.inl config
  · obtain rfl := slot_of_apply call writes
    exact Or.inl service
  · obtain rfl := slot_of_apply call writes
    exact Or.inl workload
  · left
    rcases call with rfl | rfl | request | ⟨r, rfl, there⟩ | rfl
    · exact absurd rfl writes.2.1
    · exact absurd rfl writes.2.1
    · exact absurd request writes.2.2
    · obtain rfl : r.slot = s := writes.1
      rw [there]
      exact secret
    · obtain rfl := writes.1
      exact secret

theorem slot_of_cleanup (copy : i.markerStep.slot = a.slot)
    (member : step ∈ i.cleanupSteps settings) (call : step.mayCall c) :
    ∃ g ∈ a.guarded, c = .delete g := by
  obtain ⟨b, r, steps, isBinding, isRole⟩ := cleanupSteps_of_copy copy settings
  rw [steps] at member
  simp only [List.mem_cons, List.not_mem_nil, or_false] at member
  rcases member with rfl | rfl
  · refine ⟨a.binding, by simp [guarded], ?_⟩
    rw [← isBinding]
    exact call
  · refine ⟨a.role, by simp [guarded], ?_⟩
    rw [← isRole]
    exact call

theorem guarded_ne_slot (member : g ∈ a.guarded) : g ≠ a.slot := by
  rintro rfl
  rcases kind_of_guarded member with kind | kind <;> cases kind

theorem not_writes_slot_of_own (copy : i.markerStep.slot = a.slot)
    (member : step ∈ i.ownSteps settings) (call : step.mayCall c) : ¬ c.writes a.slot := by
  intro writes
  unfold Instance.ownSteps at member
  split at member
  · obtain ⟨g, isGuarded, rfl⟩ := slot_of_cleanup copy member call
    exact guarded_ne_slot isGuarded writes.1
  · rcases kind_of_write copy member call writes with collected | ⟨kind | kind, _⟩
    · exact absurd collected (show Kind.nodeAgent ∉ collectedKinds by decide)
    · cases kind
    · cases kind

theorem not_writes_of_kind (copy : i.markerStep.slot = a.slot) (member : g ∈ a.guarded)
    (kind : c.slot.kind = i.kind) : ¬ c.writes g := by
  intro writes
  have isAgent : i.kind = .nodeAgent := congrArg Slot.kind copy
  rw [isAgent, writes.1] at kind
  rcases kind_of_guarded member with other | other <;> rw [other] at kind <;> cases kind

theorem not_writes_of_marker (copy : i.markerStep.slot = a.slot) (member : g ∈ a.guarded)
    (call : (Step.marker i.markerStep).mayCall c) : ¬ c.writes g := by
  rcases call with rfl | ⟨object, rfl⟩
  · exact not_writes_of_kind copy member rfl
  · exact not_writes_of_kind copy member rfl

theorem not_writes_of_status (copy : i.markerStep.slot = a.slot) (member : g ∈ a.guarded)
    (call : (i.statusWriter settings policy).mayCall c) : ¬ c.writes g := by
  rcases call with ⟨slot, rfl⟩ | ⟨object, rfl⟩
  · intro writes
    exact writes.2.1 rfl
  · exact not_writes_of_kind copy member rfl

theorem appliesPlain_of_live (copy : i.markerStep.slot = a.slot)
    (live : i.metadata.isDeleting = false) (run : (i.pass settings policy).Runs events outcome)
    (member : g ∈ a.guarded) {answer : c.Answer} (called : .call c answer ∈ events)
    (writes : c.writes g) : c.AppliesPlain := by
  refine Instance.sort_of_pass (fun c => c.writes g → c.AppliesPlain) run ?_ ?_ ?_ called writes
  · intro step inOwn c call writes
    rw [Instance.ownSteps, if_neg (by simp [live])] at inOwn
    rcases kind_of_write copy inOwn call writes with collected | ⟨_, applies⟩
    · rcases kind_of_guarded member with kind | kind <;> rw [kind] at collected <;>
        simp [collectedKinds] at collected
    · exact applies
  · intro c call writes
    exact absurd writes (not_writes_of_marker copy member call)
  · intro c call writes
    exact absurd writes (not_writes_of_status copy member call)

theorem delete_of_deleting (copy : i.markerStep.slot = a.slot)
    (deleting : i.metadata.isDeleting = true) (run : (i.pass settings policy).Runs events outcome)
    (member : g ∈ a.guarded) {answer : c.Answer} (called : .call c answer ∈ events)
    (writes : c.writes g) : c = .delete g := by
  refine Instance.sort_of_pass (fun c => c.writes g → c = .delete g) run ?_ ?_ ?_ called writes
  · intro step inOwn c call writes
    rw [Instance.ownSteps, if_pos deleting] at inOwn
    obtain ⟨g', _, rfl⟩ := slot_of_cleanup copy inOwn call
    exact congrArg Call.delete writes.1
  · intro c call writes
    exact absurd writes (not_writes_of_marker copy member call)
  · intro c call writes
    exact absurd writes (not_writes_of_status copy member call)

theorem events_of_cleanup {delay : Duration} {error : Option StepError} {b r : Resource}
    (run : (Pass.runFrom delay error
      ([Instance.deleteStep b .stop, Instance.deleteStep r .stop].map Step.run)).Runs events
      outcome) :
    ∃ x, events = [.call (.delete b.slot) x] ∨
      ∃ y, events = [.call (.delete b.slot) x, .call (.delete r.slot) y] := by
  obtain ⟨_, result, others, rfl, head, tail⟩ := Program.runs_bind.mp run
  obtain ⟨x, rfl, rfl⟩ := DeleteStep.runs_iff.mp head
  refine ⟨x, ?_⟩
  dsimp only at tail
  split at tail
  · right
    obtain ⟨_, result, nothing, rfl, second, last⟩ := Program.runs_bind.mp tail
    obtain ⟨y, rfl, rfl⟩ := DeleteStep.runs_iff.mp second
    have none : nothing = [] := by
      dsimp only at last
      split at last <;> exact (Program.runs_pure.mp last).1
    exact ⟨y, by rw [none]; rfl⟩
  · left
    rw [(Program.runs_pure.mp tail).1]
    rfl
  · left
    rw [(Program.runs_pure.mp tail).1]
    rfl

theorem delete_answer_unique (copy : i.markerStep.slot = a.slot)
    (run : (i.pass settings policy).Runs events outcome) (member : g ∈ a.guarded)
    {x y : Except StoreError Unit} (first : .call (.delete g) x ∈ events)
    (second : .call (.delete g) y ∈ events) : x = y := by
  rcases Instance.pass_parts run with rfl | ⟨own, marker, status, rfl, parts⟩
  · simp at first
  · have inOwn (z : Except StoreError Unit)
        (called : .call (.delete g) z ∈ own ++ marker ++ status) :
        Event.call (.delete g) z ∈ own := by
      rcases List.mem_append.mp called with body | last
      · rcases List.mem_append.mp body with here | middle
        · exact here
        · rcases parts.marker_of_mem middle with same | ⟨_, same⟩ <;> cases same
      · rcases parts.status_of_mem last with ⟨_, same⟩ | ⟨_, same⟩ <;> cases same
    have firstOwn := inOwn x first
    have secondOwn := inOwn y second
    obtain ⟨reached, steps, _⟩ := parts.own_marker
    cases deleting : i.metadata.isDeleting with
    | false =>
      -- a live copy has no step that deletes a role or a binding
      have secret := Instance.kind_of_delete_of_live deleting steps firstOwn
      rcases kind_of_guarded member with kind | kind <;> rw [kind] at secret <;> cases secret
    | true =>
      obtain ⟨b, r, cleanup, isBinding, isRole⟩ := cleanupSteps_of_copy copy settings
      rw [Instance.ownProgram, Instance.ownSteps, if_pos deleting, cleanup] at steps
      have distinct : b.slot ≠ r.slot := by
        rw [isBinding, isRole]
        exact a.binding_ne_role
      obtain ⟨x', rfl | ⟨y', rfl⟩⟩ := events_of_cleanup steps
      · simp only [List.mem_singleton, Event.call.injEq, heq_eq_eq] at firstOwn secondOwn
        rw [firstOwn.2, secondOwn.2]
      · simp only [List.mem_cons, List.not_mem_nil, or_false, Event.call.injEq, Call.delete.injEq,
          heq_eq_eq] at firstOwn secondOwn
        rcases firstOwn with ⟨here, rfl⟩ | ⟨here, rfl⟩ <;>
          rcases secondOwn with ⟨there, rfl⟩ | ⟨there, rfl⟩
        · rfl
        · exact absurd (here.symm.trans there) distinct
        · exact absurd (there.symm.trans here) distinct
        · rfl

end AgentId
end AgentOperator
