import AgentOperator.Proofs.AgentPass

/-!
The slots that the steps of an agent work on, and when two agents share one. What lives in an
agent's namespace is named after the agent, so nothing of it is shared. The role and its binding
belong to no namespace and are named after the joined namespace and name of the agent; the hyphen
that joins them may occur in both, so different agents can be joined to one text.
-/
namespace AgentOperator

/-- Two pairs are joined to one list exactly if they are equal or one of them is cut at a later
separator. -/
theorem joined_eq_iff {α : Type} {separator : α} {a b c d : List α} :
    a ++ separator :: b = c ++ separator :: d ↔
      (a = c ∧ b = d) ∨ (∃ middle, a = c ++ separator :: middle ∧ d = middle ++ separator :: b) ∨
        ∃ middle, c = a ++ separator :: middle ∧ b = middle ++ separator :: d := by
  constructor
  · intro same
    rcases List.append_eq_append_iff.mp same with ⟨rest, left, right⟩ | ⟨rest, left, right⟩
    · cases rest with
      | nil =>
        simp only [List.nil_append, List.cons.injEq, true_and] at right
        exact Or.inl ⟨by simp [left], right⟩
      | cons first middle =>
        obtain ⟨rfl, rfl⟩ := List.cons.inj right
        exact Or.inr (Or.inr ⟨middle, left, rfl⟩)
    · cases rest with
      | nil =>
        simp only [List.nil_append, List.cons.injEq, true_and] at right
        exact Or.inl ⟨by simp [left], right.symm⟩
      | cons first middle =>
        obtain ⟨rfl, rfl⟩ := List.cons.inj right
        exact Or.inr (Or.inl ⟨middle, left, rfl⟩)
  · rintro (⟨rfl, rfl⟩ | ⟨middle, rfl, rfl⟩ | ⟨middle, rfl, rfl⟩)
    · rfl
    · simp
    · simp

namespace Step
variable {step : Step} {c : Call} {slot : Slot}

def slots : Step → List Slot
  | .apply s => [s.resource.slot]
  | .delete s => [s.resource.slot]
  | .provision s => [s.resource.slot]
  | .credential s => [s.accountSlot, s.secretSlot]
  | .marker s => [s.slot]

theorem slot_of_write {s : Step} (notMarker : ∀ m, s ≠ .marker m) (call : s.mayCall c)
    (writes : c.writes slot) : slot ∈ s.slots := by
  cases s with
  | apply s =>
    obtain ⟨r, desired, rfl⟩ := call
    have same : r.slot = s.resource.slot := ApplyStep.slot_of_desired desired
    simp [slots, ← same, ← writes.1, Call.slot]
  | delete s =>
    obtain rfl : c = .delete s.resource.slot := call
    simp [slots, ← writes.1, Call.slot]
  | provision s =>
    rcases call with rfl | rfl
    · exact absurd rfl writes.2.1
    · simp [slots, ← writes.1, Call.slot]
  | credential s =>
    rcases call with rfl | rfl | request | ⟨r, rfl, there⟩ | rfl
    · exact absurd rfl writes.2.1
    · exact absurd rfl writes.2.1
    · exact absurd request writes.2.2
    · simp [slots, ← there, ← writes.1, Call.slot]
    · simp [slots, ← writes.1, Call.slot]
  | marker m => exact absurd rfl (notMarker m)

end Step

namespace Instance
variable {i : Instance} {settings : Settings} {policy : RetryPolicy} {events : List Event}
  {outcome : Outcome} {c : Call} {slot : Slot}

def managed (i : Instance) (settings : Settings) : List Slot :=
  (i.applySteps settings ++ i.cleanupSteps settings).flatMap Step.slots

theorem mem_managed : slot ∈ i.managed settings ↔
    ∃ step, (step ∈ i.applySteps settings ∨ step ∈ i.cleanupSteps settings) ∧
      slot ∈ step.slots := by
  simp only [managed, List.mem_flatMap, List.mem_append]

theorem slots_of_own {step : Step} (inOwn : step ∈ i.ownSteps settings) (call : step.mayCall c)
    (writes : c.writes slot) : slot ∈ step.slots := by
  refine Step.slot_of_write ?_ call writes
  rintro m rfl
  unfold ownSteps at inOwn
  split at inOwn
  · obtain ⟨resource, same⟩ := cases_of_cleanup inOwn
    cases same
  · rcases cases_of_apply inOwn with ⟨resource, onError, same⟩ | ⟨s, same⟩ | ⟨s, same⟩ <;>
      cases same

theorem managed_of_own {step : Step} (inOwn : step ∈ i.ownSteps settings)
    (within : slot ∈ step.slots) : slot ∈ i.managed settings := by
  rw [mem_managed]
  unfold ownSteps at inOwn
  split at inOwn
  · exact ⟨step, Or.inr inOwn, within⟩
  · exact ⟨step, Or.inl inOwn, within⟩

theorem own_of_write (run : (i.pass settings policy).Runs events outcome) {answer : c.Answer}
    (called : .call c answer ∈ events) (writes : c.writes slot) :
    (∃ step ∈ i.ownSteps settings, slot ∈ step.slots) ∨ slot.kind = i.kind := by
  refine sort_of_pass (fun c => c.writes slot →
    (∃ step ∈ i.ownSteps settings, slot ∈ step.slots) ∨ slot.kind = i.kind) run ?_ ?_ ?_ called
    writes
  · intro step inOwn c call writes
    exact Or.inl ⟨step, inOwn, slots_of_own inOwn call writes⟩
  · intro c call writes
    right
    rcases call with rfl | ⟨object, rfl⟩
    · rw [← writes.1]
      rfl
    · rw [← writes.1]
      rfl
  · intro c call writes
    right
    rcases call with ⟨slot, rfl⟩ | ⟨object, rfl⟩
    · exact absurd rfl writes.2.1
    · rw [← writes.1]
      rfl

theorem managed_of_write (run : (i.pass settings policy).Runs events outcome) {answer : c.Answer}
    (called : .call c answer ∈ events) (writes : c.writes slot) :
    slot ∈ i.managed settings ∨ slot.kind = i.kind := by
  rcases own_of_write run called writes with ⟨step, inOwn, within⟩ | kind
  · exact Or.inl (managed_of_own inOwn within)
  · exact Or.inr kind

end Instance

namespace AgentId
variable {a b : AgentId} {i j : Instance} {settings settings' : Settings} {s : Slot}

def workloadKey (a : AgentId) : Key := .namespaced a.ns (a.name ++ "-agent")

def secretKey (a : AgentId) : Key := .namespaced a.ns (Blueprint.credentialName a.name)

def collected (a : AgentId) : List Slot :=
  [⟨.serviceAccount, a.workloadKey⟩, ⟨.configMap, a.workloadKey⟩, ⟨.service, a.workloadKey⟩,
    ⟨.daemonSet, a.workloadKey⟩, ⟨.secret, a.secretKey⟩]

theorem managed_iff (copy : i.markerStep.slot = a.slot) :
    s ∈ i.managed settings ↔ s ∈ a.guarded ∨ s ∈ a.collected := by
  obtain ⟨spec, isAgent⟩ := exists_spec copy
  have cluster : (Blueprint.ofAgent i.metadata spec settings).clusterName = a.clusterName := by
    simp [Blueprint.ofAgent, clusterName, ns_of_copy copy, name_of_copy copy]
  have workload : (Blueprint.ofAgent i.metadata spec settings).workloadKey = a.workloadKey := by
    simp [Blueprint.workloadKey, Blueprint.ofAgent, workloadKey, ns_of_copy copy, name_of_copy copy]
  have secret : (Blueprint.ofAgent i.metadata spec settings).secretKey = a.secretKey := by
    simp [Blueprint.secretKey, Blueprint.ofAgent, secretKey, ns_of_copy copy, name_of_copy copy]
  have slots : i.managed settings =
      [⟨.serviceAccount, a.workloadKey⟩, a.role, a.binding, ⟨.configMap, a.workloadKey⟩,
        ⟨.service, a.workloadKey⟩, ⟨.daemonSet, a.workloadKey⟩, ⟨.serviceAccount, a.workloadKey⟩,
        ⟨.secret, a.secretKey⟩, a.binding, a.role] := by
    rw [← workload, ← secret, role, binding, ← cluster]
    unfold Instance.managed Instance.applySteps Instance.cleanupSteps Blueprint.ofInstance
    rw [isAgent]
    rfl
  rw [slots]
  simp only [guarded, collected, List.mem_cons, List.not_mem_nil, or_false]
  constructor
  · rintro (h | h | h | h | h | h | h | h | h | h) <;> simp [h]
  · rintro ((h | h) | h | h | h | h | h) <;> simp [h]

/-- Joined, the keys of both agents are one text, which `a` cuts at a later hyphen than `b`. -/
def CutsLater (a b : AgentId) : Prop :=
  ∃ middle, a.ns = b.ns ++ "-" ++ middle ∧ b.name = middle ++ "-" ++ a.name

theorem cutsLater_iff : a.CutsLater b ↔
    ∃ middle, a.ns.toList = b.ns.toList ++ '-' :: middle ∧
      b.name.toList = middle ++ '-' :: a.name.toList := by
  constructor
  · rintro ⟨middle, ns, name⟩
    exact ⟨middle.toList, by simp [ns], by simp [name]⟩
  · rintro ⟨middle, ns, name⟩
    refine ⟨String.ofList middle, ?_, ?_⟩
    · rw [← String.toList_inj]
      simp [ns]
    · rw [← String.toList_inj]
      simp [name]

theorem clusterName_eq_iff :
    a.clusterName = b.clusterName ↔ a = b ∨ a.CutsLater b ∨ b.CutsLater a := by
  have joined : a.clusterName = b.clusterName ↔
      a.ns.toList ++ '-' :: a.name.toList = b.ns.toList ++ '-' :: b.name.toList := by
    rw [clusterName, clusterName, ← String.toList_inj]
    simp
  have equal : a = b ↔ a.ns.toList = b.ns.toList ∧ a.name.toList = b.name.toList := by
    rw [String.toList_inj, String.toList_inj]
    cases a
    cases b
    simp
  rw [joined, joined_eq_iff, cutsLater_iff, cutsLater_iff, equal]

theorem collected_inj (mine : s ∈ a.collected) (yours : s ∈ b.collected) : a = b := by
  have namespaces (d : AgentId) (member : s ∈ d.collected) : s.key.ns = some d.ns := by
    simp only [collected, List.mem_cons, List.not_mem_nil, or_false] at member
    rcases member with rfl | rfl | rfl | rfl | rfl <;> rfl
  have names (d : AgentId) (member : s ∈ d.collected) :
      s.key.name = d.name ++ if s.kind = .secret then "-token" else "-agent" := by
    simp only [collected, List.mem_cons, List.not_mem_nil, or_false] at member
    rcases member with rfl | rfl | rfl | rfl | rfl <;> rfl
  have sameNs : a.ns = b.ns := by
    have both := (namespaces a mine).symm.trans (namespaces b yours)
    exact Option.some.inj both
  have sameName : a.name = b.name := by
    have both := (names a mine).symm.trans (names b yours)
    exact (String.append_left_inj _).mp both
  cases a
  cases b
  simp_all

theorem not_guarded_of_collected (member : s ∈ a.collected) : s ∉ b.guarded := by
  intro guarded
  simp only [collected, List.mem_cons, List.not_mem_nil, or_false] at member
  rcases kind_of_guarded guarded with kind | kind <;>
    rcases member with rfl | rfl | rfl | rfl | rfl <;> cases kind

theorem clusterName_of_guarded (member : s ∈ a.guarded) : s.key = .cluster a.clusterName := by
  simp only [guarded, List.mem_cons, List.not_mem_nil, or_false] at member
  rcases member with rfl | rfl <;> rfl

theorem guarded_eq_iff : (∃ s ∈ a.guarded, s ∈ b.guarded) ↔ a.clusterName = b.clusterName := by
  constructor
  · rintro ⟨s, mine, yours⟩
    have both := (clusterName_of_guarded mine).symm.trans (clusterName_of_guarded yours)
    exact congrArg Key.name both
  · intro same
    refine ⟨a.role, by simp [guarded], ?_⟩
    have role : a.role = b.role := by rw [role, role, same]
    simp [guarded, role]

theorem kind_ne_of_managed (copy : i.markerStep.slot = a.slot) (member : s ∈ i.managed settings) :
    s.kind ≠ .nodeAgent := by
  intro kind
  rcases (managed_iff copy).mp member with guarded | collected
  · rcases kind_of_guarded guarded with other | other <;> rw [other] at kind <;> cases kind
  · simp only [AgentId.collected, List.mem_cons, List.not_mem_nil, or_false] at collected
    rcases collected with rfl | rfl | rfl | rfl | rfl <;> cases kind

theorem not_cutsLater_of_ns (same : a.ns = b.ns) : ¬ a.CutsLater b := by
  rintro ⟨middle, ns, _⟩
  have lengths := congrArg String.length (same.symm.trans ns)
  simp only [String.length_append] at lengths
  have hyphen : "-".length = 1 := rfl
  omega

/-- Different agents share nothing but the role and its binding, and these exactly if one namespace
goes on with a hyphen behind the other and the other's name makes up for it. Else no pass over one
agent writes anything that the other's steps work on. -/
theorem shares_iff_cutsLater (mine : i.markerStep.slot = a.slot)
    (yours : j.markerStep.slot = b.slot) (different : a ≠ b) :
    ((∃ s ∈ i.managed settings, s ∈ j.managed settings') ↔ a.CutsLater b ∨ b.CutsLater a) ∧
    (∀ s ∈ i.managed settings, s ∈ j.managed settings' → s = a.role ∨ s = a.binding) ∧
    ∀ policy events outcome, (i.pass settings policy).Runs events outcome →
      ∀ (c : Call) (answer : c.Answer), .call c answer ∈ events →
        ∀ s ∈ j.managed settings', c.writes s →
          (a.CutsLater b ∨ b.CutsLater a) ∧ (s = a.role ∨ s = a.binding) := by
  have guardedOfShared : ∀ s ∈ i.managed settings, s ∈ j.managed settings' →
      s ∈ a.guarded ∧ s ∈ b.guarded := by
    intro s inMine inYours
    rcases (managed_iff mine).mp inMine with guarded | collected <;>
      rcases (managed_iff yours).mp inYours with guarded' | collected'
    · exact ⟨guarded, guarded'⟩
    · exact absurd guarded (not_guarded_of_collected collected')
    · exact absurd guarded' (not_guarded_of_collected collected)
    · exact absurd (collected_inj collected collected') different
  have slots : ∀ s ∈ a.guarded, s = a.role ∨ s = a.binding := by
    intro s member
    simp only [guarded, List.mem_cons, List.not_mem_nil, or_false] at member
    exact member.symm
  have sharing : (∃ s ∈ a.guarded, s ∈ b.guarded) ↔ a.CutsLater b ∨ b.CutsLater a := by
    rw [guarded_eq_iff, clusterName_eq_iff]
    simp [different]
  refine ⟨?_, ?_, ?_⟩
  · rw [← sharing]
    constructor
    · rintro ⟨s, inMine, inYours⟩
      exact ⟨s, guardedOfShared s inMine inYours⟩
    · rintro ⟨s, inMine, inYours⟩
      exact ⟨s, (managed_iff mine).mpr (Or.inl inMine), (managed_iff yours).mpr (Or.inl inYours)⟩
  · intro s inMine inYours
    exact slots s (guardedOfShared s inMine inYours).1
  · intro policy events outcome run c answer called s inYours writes
    rcases Instance.managed_of_write run called writes with inMine | kind
    · have shared := guardedOfShared s inMine inYours
      exact ⟨sharing.mp ⟨s, shared⟩, slots s shared.1⟩
    · have isAgent : i.kind = .nodeAgent := congrArg Slot.kind mine
      exact absurd (kind.trans isAgent) (kind_ne_of_managed yours inYours)

def marked (a : AgentId) (deleted : Option Timestamp) : Instance :=
  { metadata :=
      { name := some a.name, ns := some a.ns, uid := some "agent-uid", deletionTimestamp := deleted
        finalizers := some [Conventions.cleanupMarker] }
    spec := .agent {} }

theorem neighbours_share_nothing :
    let a : AgentId := ⟨"observability", "telemetry"⟩
    let b : AgentId := ⟨"observability", "profiler"⟩
    (a.marked none).markerStep.slot = a.slot ∧ (b.marked none).markerStep.slot = b.slot ∧ a ≠ b ∧
      ¬ ∃ s ∈ (a.marked none).managed {}, s ∈ (b.marked none).managed {} := by
  intro a b
  have different : a ≠ b := by decide
  refine ⟨rfl, rfl, different, ?_⟩
  rw [(shares_iff_cutsLater rfl rfl different).1]
  rintro (later | later)
  · exact not_cutsLater_of_ns (show a.ns = b.ns from rfl) later
  · exact not_cutsLater_of_ns (show b.ns = a.ns from rfl) later

/-- A character of a namespace's name. An object's name may have dots as well. -/
def isNameChar (c : Char) : Bool := c.isLower || c.isDigit || c = '-'

def Valid (a : AgentId) : Prop :=
  a.ns ≠ "" ∧ a.name ≠ "" ∧ a.ns.toList.all isNameChar ∧
    a.name.toList.all fun c => isNameChar c || c = '.'

/-- The agent `probe` in `edge-west` lives, `west-probe` in `edge` goes and takes the role of the
other along. -/
theorem role_deleted_with_hyphenated_agent :
    let living : AgentId := ⟨"edge-west", "probe"⟩
    let leaving : AgentId := ⟨"edge", "west-probe"⟩
    living ≠ leaving ∧ living.Valid ∧ leaving.Valid ∧
      (∃ step ∈ (living.marked none).applySteps {}, living.role ∈ step.slots) ∧
      ∃ events outcome, ((leaving.marked (some ⟨0, 0⟩)).pass {} {}).Runs events outcome ∧
        .call (.delete living.role) (.ok ()) ∈ events := by
  intro living leaving
  let stored : Object := { metadata := (leaving.marked (some ⟨0, 0⟩)).metadata }
  have step : Instance.applyStep (living.marked none)
      (Manifest.clusterRole (.ofInstance (living.marked none) {}) .full).resource .stop ∈
        (living.marked none).applySteps {} := by
    simp [Instance.applySteps, marked]
  have run : ((leaving.marked (some ⟨0, 0⟩)).pass {} {}).Runs
      [.call (.delete living.binding) (.ok ()), .call (.delete living.role) (.ok ()),
        .call (.get leaving.slot) (.ok stored), .call (.replace _) (.ok stored),
        .call (.get leaving.slot) (.error (.notFound "NodeAgent edge/west-probe not found"))] _ :=
    .call _ (.call _ (.call _ (.call _ (.call _ (.done _)))))
  refine ⟨by decide, ?_, ?_, ⟨_, step, ?_⟩, _, _, run, ?_⟩
  · simp [Valid, living, isNameChar]
  · simp [Valid, leaving, isNameChar]
  · exact List.mem_singleton.mpr rfl
  · simp

end AgentId
end AgentOperator
