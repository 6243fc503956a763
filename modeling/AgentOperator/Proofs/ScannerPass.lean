import AgentOperator.Proofs.AgentNames
import AgentOperator.Proofs.FaultlessStore
import AgentOperator.Proofs.StepResults

/-!
What a pass over a scanner does to namespaces and to the scanner itself. A live scanner's pass may
create the namespace that its specification names and writes no other; a deleted scanner's pass
deletes the one that its specification names then, whoever created it, and on a store without
failures it always gets as far as releasing the marker.
-/
namespace AgentOperator

def nsSlot (name : String) : Slot := ⟨.namespace, .cluster name⟩

theorem nsSlot_injective : Function.Injective nsSlot := by
  intro m n same
  have keys := congrArg Slot.key same
  exact congrArg Key.name keys

namespace Instance
variable {i : Instance} {spec : ScannerSpec} {settings : Settings} {policy : RetryPolicy}
  {events : List Event} {outcome : Outcome} {c c' : Cluster} {stored o : Object} {slot : Slot}
  {n : String} {call : Call} {answer : call.Answer} {step : Step}

theorem kind_of_scanner (scanner : i.spec = .scanner spec) : i.kind = .nodeScanner := by
  rw [kind, scanner]

theorem managed_of_scanner (scanner : i.spec = .scanner spec) (settings : Settings) :
    ∃ workload role, i.managed settings =
      [nsSlot spec.ns, ⟨.serviceAccount, workload⟩, ⟨.clusterRole, role⟩,
        ⟨.clusterRoleBinding, role⟩, ⟨.configMap, workload⟩, ⟨.daemonSet, workload⟩,
        ⟨.clusterRoleBinding, role⟩, ⟨.clusterRole, role⟩, nsSlot spec.ns] := by
  let b := Blueprint.ofScanner i.metadata spec settings
  refine ⟨b.workloadKey, .cluster b.clusterName, ?_⟩
  unfold managed applySteps cleanupSteps Blueprint.ofInstance
  rw [scanner]
  rfl

theorem kind_of_managed_scanner (scanner : i.spec = .scanner spec)
    (member : slot ∈ i.managed settings) : slot.kind ≠ i.kind := by
  obtain ⟨workload, role, slots⟩ := managed_of_scanner scanner settings
  rw [kind_of_scanner scanner]
  intro kind
  simp only [slots, List.mem_cons, List.not_mem_nil, or_false] at member
  rcases member with rfl | rfl | rfl | rfl | rfl | rfl | rfl | rfl | rfl <;> cases kind

theorem ns_of_managed_scanner (scanner : i.spec = .scanner spec)
    (member : nsSlot n ∈ i.managed settings) : n = spec.ns := by
  obtain ⟨workload, role, slots⟩ := managed_of_scanner scanner settings
  simp only [slots, List.mem_cons, List.not_mem_nil, or_false] at member
  rcases member with same | same | same | same | same | same | same | same | same
  all_goals first
    | exact nsSlot_injective same
    | cases congrArg Slot.kind same

theorem ns_of_write (scanner : i.spec = .scanner spec)
    (run : (i.pass settings policy).Runs events outcome) (called : .call call answer ∈ events)
    (writes : call.writes (nsSlot n)) : n = spec.ns := by
  rcases managed_of_write run called writes with member | kind
  · exact ns_of_managed_scanner scanner member
  · rw [kind_of_scanner scanner] at kind
    cases kind

theorem not_writes_instance (scanner : i.spec = .scanner spec)
    (member : step ∈ i.ownSteps settings) (may : step.mayCall call) :
    ¬ call.writes i.markerStep.slot := by
  intro writes
  exact kind_of_managed_scanner scanner (managed_of_own member (slots_of_own member may writes)) rfl

theorem not_writes_ns_of_kind (scanner : i.spec = .scanner spec) (kind : call.slot.kind = i.kind) :
    ¬ call.writes (nsSlot n) := by
  intro writes
  rw [writes.1, kind_of_scanner scanner] at kind
  cases kind

theorem own_of_ns_write (sort : Call → Prop) (scanner : i.spec = .scanner spec)
    (run : (i.pass settings policy).Runs events outcome) (called : .call call answer ∈ events)
    (writes : call.writes (nsSlot n))
    (own : ∀ step ∈ i.ownSteps settings, ∀ call, step.mayCall call → call.writes (nsSlot n) →
      sort call) : sort call := by
  refine sort_of_pass (fun call => call.writes (nsSlot n) → sort call) run own ?_ ?_ called writes
  · rintro call (rfl | ⟨object, rfl⟩) writes
    · exact absurd rfl writes.2.1
    · exact absurd writes (not_writes_ns_of_kind scanner rfl)
  · rintro call (⟨slot, rfl⟩ | ⟨object, rfl⟩) writes
    · exact absurd rfl writes.2.1
    · exact absurd writes (not_writes_ns_of_kind scanner rfl)

theorem create_of_live (scanner : i.spec = .scanner spec) (live : i.metadata.isDeleting = false)
    (run : (i.pass settings policy).Runs events outcome) (called : .call call answer ∈ events)
    (writes : call.writes (nsSlot n)) : ∃ r, call = .create r ∧ r.object.Plain := by
  refine own_of_ns_write (fun call => ∃ r, call = .create r ∧ r.object.Plain) scanner run called
    writes ?_
  intro step member call may writes
  rw [ownSteps, if_neg (by simp [live])] at member
  unfold applySteps at member
  simp only [scanner, List.mem_cons, List.not_mem_nil, or_false] at member
  rcases member with rfl | rfl | rfl | rfl | rfl | rfl
  · rcases may with rfl | rfl
    · exact absurd rfl writes.2.1
    · exact ⟨_, rfl, rfl, rfl⟩
  all_goals cases congrArg Slot.kind (AgentId.slot_of_apply may writes)

theorem delete_of_deleting (scanner : i.spec = .scanner spec)
    (deleting : i.metadata.isDeleting = true) (run : (i.pass settings policy).Runs events outcome)
    (called : .call call answer ∈ events) (writes : call.writes (nsSlot n)) :
    call = .delete (nsSlot n) := by
  refine own_of_ns_write (· = .delete (nsSlot n)) scanner run called writes ?_
  intro step member call may writes
  rw [ownSteps, if_pos deleting] at member
  obtain ⟨resource, rfl⟩ := cases_of_cleanup member
  obtain rfl : call = .delete resource.slot := may
  exact congrArg Call.delete writes.1

theorem find?_ns_of_pass (scanner : i.spec = .scanner spec)
    (run : (i.pass settings policy).Runs events outcome) (serves : c.Serves events c')
    (found : c.find? (nsSlot n) = some o) (plain : o.Plain)
    (kept : ∀ answer, .call (.delete (nsSlot n)) answer ∉ events) :
    c'.find? (nsSlot n) = some o := by
  have free : c.Free (nsSlot n) := (Cluster.PlainAt.of_found found plain).free
  rw [serves.find?_eq_of_creates free (by rw [found]; rfl), found]
  intro call answer called writes
  cases deleting : i.metadata.isDeleting with
  | false =>
    obtain ⟨r, same, _⟩ := create_of_live scanner deleting run called writes
    exact ⟨r, same⟩
  | true =>
    obtain rfl := delete_of_deleting scanner deleting run called writes
    exact absurd called (kept answer)

theorem exists_ns_of_created (scanner : i.spec = .scanner spec)
    (run : (i.pass settings policy).Runs events outcome) (serves : c.Serves events c')
    {r : Resource} (there : r.slot = nsSlot n) (created : .call (.create r) (.ok o) ∈ events) :
    i.metadata.isDeleting = false ∧ ∃ o', c'.find? (nsSlot n) = some o' ∧ o'.Plain := by
  have writes := Call.writes_of_create there
  have live : i.metadata.isDeleting = false := by
    cases deleting : i.metadata.isDeleting with
    | false => rfl
    | true => cases delete_of_deleting scanner deleting run created writes
  obtain ⟨r', same, plain⟩ := create_of_live scanner live run created writes
  obtain rfl := Call.create.inj same
  refine ⟨live, ?_⟩
  rw [← there]
  refine serves.plain_of_created plain ?_ created
  intro call answer called writes
  rw [there] at writes
  obtain ⟨r', same, _⟩ := create_of_live scanner live run called writes
  exact ⟨r', same⟩

theorem key_of_copied (copied : i.metadata = stored.metadata) :
    stored.metadata.key = i.markerStep.key := by
  show stored.metadata.key = i.metadata.key
  rw [copied]

theorem found_after_own {own : List Event} {reached : Outcome} (scanner : i.spec = .scanner spec)
    (found : c.find? i.markerStep.slot = some stored) (unowned : stored.Unowned)
    (run : (i.ownProgram settings).Runs own reached) (serves : c.Serves own c') :
    c'.find? i.markerStep.slot = some stored := by
  rw [serves.find?_eq (.of_found found unowned), found]
  intro call answer called
  exact sort_of_own run (¬ ·.writes i.markerStep.slot)
    (fun step member call may => not_writes_instance scanner member may) called

/-- What is stored of the scanner after a pass over a copy of it: the same but for its status, or
what the marker's write has left. -/
theorem stored_after_pass (scanner : i.spec = .scanner spec)
    (found : c.find? i.markerStep.slot = some stored) (copied : i.metadata = stored.metadata)
    (unowned : stored.Unowned) (run : (i.pass settings policy).Runs events outcome)
    (serves : c.Serves events c') :
    (∃ o, c'.find? i.markerStep.slot = some o ∧ o.lasting = stored.lasting) ∨
      ∃ d, i.markerStep.Rewritten stored d ∧
        (c'.find? i.markerStep.slot).map Object.lasting =
          (d.find? i.markerStep.slot).map Object.lasting := by
  rcases pass_parts run with rfl | ⟨own, marker, status, rfl, parts⟩
  · cases serves
    exact Or.inl ⟨stored, found, rfl⟩
  · obtain ⟨c₂, body, writing⟩ := serves.split
    obtain ⟨c₁, steps, marking⟩ := body.split
    obtain ⟨reached, ownRun, markerRun⟩ := parts.own_marker
    have untouched := found_after_own scanner found unowned ownRun steps
    have same := writing.lasting_of_status
      (fun call answer called => parts.status_of_mem called) i.markerStep.slot
    have marked : c₂.find? i.markerStep.slot = some stored ∨
        i.markerStep.Rewritten stored c₂ := by
      rcases markerRun with nothing | ⟨_, result, markerRun⟩
      · subst nothing
        cases marking
        exact Or.inl untouched
      · exact MarkerStep.kept_or_rewritten untouched (key_of_copied copied) markerRun marking
    rcases marked with kept | rewritten
    · rw [kept] at same
      obtain ⟨o, there, lasting⟩ := Option.map_eq_some_iff.mp same
      exact Or.inl ⟨o, there, lasting⟩
    · exact Or.inr ⟨c₂, rewritten, same⟩

theorem hasMarker_of_lasting (same : o.lasting = stored.lasting) (marker : String) :
    o.metadata.hasMarker marker = stored.metadata.hasMarker marker := by
  show o.lasting.hasMarker marker = stored.lasting.hasMarker marker
  rw [same]

theorem placed_after_pass (scanner : i.spec = .scanner spec)
    (found : c.find? i.markerStep.slot = some stored) (copied : i.metadata = stored.metadata)
    (unowned : stored.Unowned) (run : (i.pass settings policy).Runs events outcome)
    (serves : c.Serves events c') (there : c'.find? i.markerStep.slot = some o) :
    o.metadata.key = stored.metadata.key ∧ o.Unowned := by
  rcases stored_after_pass scanner found copied unowned run serves with
    ⟨o', there', same⟩ | ⟨d, ⟨changed, o', _, kept, sameKey, sameOwners, _⟩, same⟩
  · rw [there] at there'
    obtain rfl := Option.some.inj there'
    constructor
    · show o.lasting.key = stored.lasting.key
      rw [same]
    · show o.lasting.ownerReferences.getD [] = []
      rw [same]
      exact unowned
  · rw [there, kept] at same
    split at same
    · cases same
    · have lasting : o.lasting = o'.lasting := Option.some.inj same
      constructor
      · show o.lasting.key = _
        rw [lasting]
        exact sameKey
      · show o.lasting.ownerReferences.getD [] = []
        rw [lasting]
        show o'.metadata.ownerReferences.getD [] = []
        rw [sameOwners]
        exact unowned

theorem marked_of_live (scanner : i.spec = .scanner spec)
    (found : c.find? i.markerStep.slot = some stored) (copied : i.metadata = stored.metadata)
    (unowned : stored.Unowned) (run : (i.pass settings policy).Runs events outcome)
    (serves : c.Serves events c') (live : stored.metadata.isDeleting = false)
    (marked : stored.metadata.hasMarker Conventions.cleanupMarker = true) :
    ∃ o, c'.find? i.markerStep.slot = some o ∧
      o.metadata.hasMarker Conventions.cleanupMarker = true := by
  rcases stored_after_pass scanner found copied unowned run serves with
    ⟨o, there, same⟩ | ⟨d, ⟨changed, o, amended, _⟩, _⟩
  · exact ⟨o, there, (hasMarker_of_lasting same _).trans marked⟩
  · have steady : i.markerStep.amended? stored = none := by
      have transition :
          MarkerTransition.of stored.metadata i.markerStep.marker = .steady := by
        show MarkerTransition.of stored.metadata Conventions.cleanupMarker = _
        rw [MarkerTransition.of, marked, live]
        rfl
      rw [MarkerStep.amended?, transition]
    rw [steady] at amended
    cases amended

theorem hasMarker_removeMarker (m : Metadata) (marker : String) :
    (m.removeMarker marker).hasMarker marker = false := by
  unfold Metadata.removeMarker Metadata.hasMarker
  cases m.finalizers with
  | none => rfl
  | some finalizers => simp

theorem bare_of_cleanup (scanner : i.spec = .scanner spec)
    (found : c.find? i.markerStep.slot = some stored) (copied : i.metadata = stored.metadata)
    (unowned : stored.Unowned) (deleting : i.metadata.isDeleting = true)
    (marked : i.metadata.hasMarker Conventions.cleanupMarker = true)
    (run : (i.pass settings policy).Runs events outcome) (obeys : c.Obeys events c')
    (there : c'.find? i.markerStep.slot = some o) :
    o.metadata.hasMarker Conventions.cleanupMarker = false := by
  obtain ⟨own, marker, status, reached, result, rfl, ownRun, _, markerRun, writing⟩ :=
    marker_of_cleanup deleting marked run obeys
  obtain ⟨c₂, body, statusServed⟩ := obeys.split
  obtain ⟨c₁, steps, marking⟩ := body.split
  have untouched := found_after_own scanner found unowned ownRun steps.serves
  have amended : i.markerStep.amended? stored =
      some (stored.withMetadata (·.removeMarker Conventions.cleanupMarker)) := by
    rw [copied] at deleting marked
    unfold MarkerStep.amended? MarkerTransition.of
    rw [show i.markerStep.marker = Conventions.cleanupMarker from rfl, marked, deleting]
    rfl
  obtain ⟨changed, o', same, kept, _, _, finalizers, _⟩ :=
    MarkerStep.rewritten_of_obeys untouched (key_of_copied copied) amended markerRun marking
  have lasting := statusServed.serves.lasting_of_status writing i.markerStep.slot
  rw [there, kept] at lasting
  split at lasting
  · cases lasting
  · rw [hasMarker_of_lasting (Option.some.inj lasting)]
    rw [amended] at same
    obtain rfl := Option.some.inj same
    unfold Metadata.hasMarker
    rw [finalizers]
    exact hasMarker_removeMarker stored.metadata Conventions.cleanupMarker

theorem slot_of_namespace (scanner : i.spec = .scanner spec) (settings : Settings) :
    (Manifest.namespaceOf (Blueprint.ofInstance i settings)).resource.slot = nsSlot spec.ns := by
  show (⟨.namespace, ⟨none, (Blueprint.ofInstance i settings).ns⟩⟩ : Slot) = _
  rw [Blueprint.ofInstance, scanner]
  rfl

theorem delete_iff (scanner : i.spec = .scanner spec)
    (run : (i.pass settings policy).Runs events outcome) (obeys : c.Obeys events c') :
    (∃ answer, .call (.delete (nsSlot n)) answer ∈ events) ↔
      i.metadata.isDeleting = true ∧
        i.metadata.hasMarker Conventions.cleanupMarker = true ∧ spec.ns = n := by
  constructor
  · rintro ⟨answer, called⟩
    have writes := Call.writes_of_delete (nsSlot n)
    have deleting : i.metadata.isDeleting = true := by
      cases deleting : i.metadata.isDeleting with
      | true => rfl
      | false =>
        obtain ⟨r, same, _⟩ := create_of_live scanner deleting run called writes
        cases same
    refine ⟨deleting, ?_, (ns_of_write scanner run called writes).symm⟩
    cases bare : i.metadata.hasMarker Conventions.cleanupMarker with
    | true => rfl
    | false =>
      rw [nothing_of_bare deleting bare run] at called
      cases called
  · rintro ⟨deleting, marked, rfl⟩
    obtain ⟨own, marker, status, reached, result, rfl, ownRun, idle, _⟩ :=
      marker_of_cleanup deleting marked run obeys
    let s : DeleteStep :=
      ⟨(Manifest.namespaceOf (Blueprint.ofInstance i settings)).resource, .stop⟩
    have member : .delete s ∈ i.cleanupSteps settings := by
      unfold cleanupSteps
      rw [scanner]
      simp [s, deleteStep]
    have there : s.resource.slot = nsSlot spec.ns := slot_of_namespace scanner settings
    obtain ⟨answer, called, _⟩ := cleaned_of_deleting deleting ownRun idle member
    rw [there] at called
    exact ⟨answer, by simp [called]⟩

theorem exists_created (scanner : i.spec = .scanner spec) (live : i.metadata.isDeleting = false)
    (absent : c.find? (nsSlot spec.ns) = none) (run : (i.pass settings policy).Runs events outcome)
    (obeys : c.Obeys events c') :
    ∃ r o, r.slot = nsSlot spec.ns ∧ .call (.create r) (.ok o) ∈ events := by
  let s : ProvisionStep := ⟨(Manifest.namespaceOf (Blueprint.ofInstance i settings)).resource⟩
  have there : s.resource.slot = nsSlot spec.ns := slot_of_namespace scanner settings
  obtain ⟨rest, first⟩ : ∃ rest, (i.steps settings).map Step.run = s.run :: rest := by
    unfold Instance.steps applySteps
    rw [if_neg (by simp [live]), scanner]
    exact ⟨_, rfl⟩
  rw [pass, if_neg (by simp [live]), first] at run
  obtain ⟨body, reached, status, rfl, steps, _⟩ := Program.runs_bind.mp run
  obtain ⟨own, result, others, rfl, head, _⟩ := Program.runs_bind.mp steps
  have absentThere (b : Cluster) (alike : b.Alike c) : b.find? s.resource.slot = none := by
    rw [alike.find?, there, absent]
  rcases ProvisionStep.runs_cases head with ⟨answer, rfl, known⟩ | ⟨text, answer, rfl, _⟩
  · obtain ⟨b, now, alike, same, _⟩ := obeys.of_call
    have missing : answer =
        .error (.notFound (s.resource.slot.ident.render ++ " not found")) := by
      rw [same]
      show b.get _ = .error (Cluster.notFound s.resource.slot)
      rw [Cluster.get, absentThere b alike]
    exact absurd missing (known _)
  · obtain ⟨b, now, alike, _, later⟩ := obeys.of_call
    obtain ⟨b', now', alike', same, _⟩ := later.of_call
    have created : answer = .ok (b'.insert s.resource).1 := by
      rw [same]
      show (b'.create s.resource).1 = _
      rw [Cluster.create_absent (absentThere b' (alike'.trans alike))]
    rw [created]
    exact ⟨s.resource, _, there, List.mem_append_left _
      (List.mem_append_left _ (List.mem_cons_of_mem _ List.mem_cons_self))⟩

end Instance
end AgentOperator
