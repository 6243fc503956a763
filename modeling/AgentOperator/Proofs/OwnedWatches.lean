import AgentOperator.Proofs.StepObjects
import AgentOperator.Watch.Intake

/-!
Which objects bring a pass about when they change. A loop watches some kinds of the objects that its
instances own, and finds the instance of an object by the reference that it bears; the namespace of
a scanner is found by its labels. What an instance owns but its loop does not watch can be changed
without a pass.
-/
namespace AgentOperator

theorem Loop.kinds_of_related (loop : Loop) : ∀ w ∈ loop.related,
    w.kind ≠ .clusterRole ∧ w.kind ≠ .clusterRoleBinding ∧
      (w.kind = .namespace → w.relation = .scannerNamespace) := by
  cases loop <;> decide

/-- What the loop knows of its main kind: the instance, and others of its scope. -/
structure Intake.Knows (intake : Intake) (i : Instance) : Prop where
  known : intake.known.lookup i.key = some (.managed i)
  alike : ∀ entry ∈ intake.known, entry.1.ns.isSome = i.key.ns.isSome

theorem Intake.find?_of_knows {intake : Intake} {i : Instance} (knows : intake.Knows i)
    {ns : Option String} (place : i.key.ns = none ∨ ns = i.key.ns) :
    intake.find? ⟨ns, i.key.name⟩ = some (.managed i) := by
  by_cases same : ns = i.key.ns
  · have key : (⟨ns, i.key.name⟩ : Key) = i.key := by rw [same]
    rw [find?, key, knows.known]
    simp
  · have wide : i.key.ns = none := by
      rcases place with wide | equal
      · exact wide
      · exact absurd equal same
    have key : Key.cluster i.key.name = i.key := by
      rw [Key.cluster, ← wide]
    have absent : intake.known.lookup ⟨ns, i.key.name⟩ = none := by
      rw [List.lookup_eq_none_iff]
      intro entry member
      have alike := knows.alike entry member
      rw [wide] at alike same
      have placed : ns ≠ entry.1.ns := by
        intro equal
        rw [← equal] at alike
        cases ns with
        | none => exact same rfl
        | some n => cases alike
      rw [bne_iff_ne]
      intro equal
      exact placed (congrArg Key.ns equal)
    rw [find?, absent, key, knows.known]
    rfl

namespace Instance
variable {i : Instance} {settings : Settings} {policy : RetryPolicy} {events : List Event}
  {outcome : Outcome} {r : Resource}

def loop (i : Instance) : Loop :=
  match i.spec with
  | .agent _ => .agent
  | .scanner _ => .scanner

/-- The objects of an instance among what its passes write: those that are applied with its
reference, and the namespace that is created for it. -/
inductive Owns (i : Instance) (r : Resource) : Call → Prop where
  | applied {reference : OwnerReference} {manager : String} {force : Bool}
      (owner : (Owner.ofInstance i).reference = some reference)
      (refers : reference ∈ r.object.metadata.ownerReferences.getD []) :
      Owns i r (.apply r manager force)
  | created : Owns i r (.create r)

/-- A change of the stored object comes through a watch of the instance's loop, which asks for a
pass over this instance and no other. Whatever the store adds to the object is of no account. -/
def Retriggered (i : Instance) (r : Resource) : Prop :=
  ∀ stored : Metadata, stored.labels = r.object.metadata.labels →
    stored.ns = r.object.metadata.ns →
    stored.ownerReferences = r.object.metadata.ownerReferences →
    ∃ w ∈ i.loop.related, w.kind = r.kind ∧ w.selects stored ∧ ∃ key, w.targets stored = [key] ∧
      ∀ intake : Intake, intake.Knows i → intake.find? key = some (.managed i)

theorem watch_of_object {step : Step} {credential : Manifest.Credential}
    (member : step ∈ i.applySteps settings) (object : step.object? credential = some r) :
    (r.kind = .clusterRole ∨ r.kind = .clusterRoleBinding) ∨
      (r.kind = .namespace ∧ i.loop = .scanner) ∨
      r.kind.clusterWide = false ∧ Watch.owned i.kind r.kind ∈ i.loop.related := by
  unfold applySteps at member
  unfold loop kind
  cases spec : i.spec with
  | agent agentSpec =>
    have watched : ∀ kind ∈ [Kind.serviceAccount, .configMap, .service, .daemonSet, .secret],
        kind.clusterWide = false ∧ Watch.owned .nodeAgent kind ∈ Loop.agent.related := by decide
    simp only [spec, List.mem_cons, List.not_mem_nil, or_false] at member
    rcases member with rfl | rfl | rfl | rfl | rfl | rfl | rfl <;> cases object
    · exact Or.inr (Or.inr (watched .serviceAccount (by decide)))
    · exact Or.inl (Or.inl rfl)
    · exact Or.inl (Or.inr rfl)
    · exact Or.inr (Or.inr (watched .configMap (by decide)))
    · exact Or.inr (Or.inr (watched .service (by decide)))
    · exact Or.inr (Or.inr (watched .daemonSet (by decide)))
    · exact Or.inr (Or.inr (watched .secret (by decide)))
  | scanner scannerSpec =>
    have watched : ∀ kind ∈ [Kind.serviceAccount, .configMap, .daemonSet],
        kind.clusterWide = false ∧ Watch.owned .nodeScanner kind ∈ Loop.scanner.related := by decide
    simp only [spec, List.mem_cons, List.not_mem_nil, or_false] at member
    rcases member with rfl | rfl | rfl | rfl | rfl | rfl <;> cases object
    · exact Or.inr (Or.inl ⟨rfl, rfl⟩)
    · exact Or.inr (Or.inr (watched .serviceAccount (by decide)))
    · exact Or.inl (Or.inl rfl)
    · exact Or.inl (Or.inr rfl)
    · exact Or.inr (Or.inr (watched .configMap (by decide)))
    · exact Or.inr (Or.inr (watched .daemonSet (by decide)))

theorem sharesScope_iff {ns : Option String} :
    (Owner.ofInstance i).sharesScope ns = true ↔ i.key.ns = none ∨ ns = i.key.ns :=
  Owner.sharesScope_iff

theorem targets_owned {m : Metadata} {reference : OwnerReference}
    (owner : (Owner.ofInstance i).reference = some reference)
    (refers : m.ownerReferences = some [reference]) (kind : Kind) :
    (Watch.owned i.kind kind).targets m = [⟨m.ns, i.key.name⟩] := by
  obtain ⟨name, named, rest⟩ := Option.bind_eq_some_iff.mp owner
  obtain ⟨uid, _, made⟩ := Option.bind_eq_some_iff.mp rest
  cases made
  have same : i.key.name = name := by
    simp [key, Metadata.key, named]
  show m.ownersOf i.kind = _
  simp [Metadata.ownersOf, refers, same]

theorem targets_namespace {b : Blueprint} {m : Metadata} (marks : b.Marks m)
    (app : b.app = .scanner) {w : Watch} (relation : w.relation = .scannerNamespace) :
    w.targets m = [.cluster b.instanceName] := by
  have scanner : m.label? Conventions.appLabel = some Conventions.scannerApp := by
    rw [marks.app, app]
    rfl
  unfold Watch.targets Metadata.scannerOf
  rw [relation]
  simp [scanner, marks.instanceName]

theorem blueprint_of_scanner (settings : Settings) (scanner : i.loop = .scanner) :
    (Blueprint.ofInstance i settings).app = .scanner ∧
      (Blueprint.ofInstance i settings).instanceName = i.key.name := by
  unfold loop at scanner
  unfold Blueprint.ofInstance
  cases spec : i.spec with
  | agent agentSpec =>
    rw [spec] at scanner
    cases scanner
  | scanner scannerSpec => exact ⟨rfl, rfl⟩

theorem object_of_owns {c : Call} {answer : c.Answer}
    (run : (i.pass settings policy).Runs events outcome) (called : .call c answer ∈ events)
    (owns : i.Owns r c) : ∃ step ∈ i.applySteps settings, ∃ credential object,
      step.object? credential = some object ∧
      (r = object ∧ r.kind = .namespace ∨
        ∃ reference, (Owner.ofInstance i).reference = some reference ∧
          (Owner.ofInstance i).sharesScope r.object.metadata.ns = true ∧
          r = object.withOwner reference) := by
  have makes : c.Makes := by
    cases owns with
    | applied owner refers => exact Or.inr rfl
    | created => exact Or.inl rfl
  obtain ⟨_, step, member, credential, making⟩ := making_of_pass run called makes
  obtain ⟨object, drawn, shape⟩ := object_of_making member making
  have unowned := (drawn_of_object member drawn).unowned
  refine ⟨step, member, credential, object, drawn, ?_⟩
  cases owns with
  | created =>
    rcases shape with ⟨same, kind⟩ | ⟨_, same⟩ | ⟨_, _, _, same⟩
    · cases same
      exact Or.inl ⟨rfl, kind⟩
    · cases same
    · cases same
  | applied owner refers =>
    rcases shape with ⟨same, _⟩ | ⟨_, same⟩ | ⟨reference, owned, shares, same⟩
    · cases same
    · cases same
      simp [unowned] at refers
    · cases same
      exact Or.inr ⟨reference, owned, shares, rfl⟩

theorem not_retriggered_of_kind (unwatched : r.kind = .clusterRole ∨ r.kind = .clusterRoleBinding) :
    ¬ i.Retriggered r := by
  intro retriggered
  obtain ⟨w, related, kind, _⟩ := retriggered r.object.metadata rfl rfl rfl
  obtain ⟨notRole, notBinding, _⟩ := i.loop.kinds_of_related w related
  rw [kind] at notRole notBinding
  rcases unwatched with role | binding
  · exact notRole role
  · exact notBinding binding

theorem retriggered_namespace_iff
    (marks : (Blueprint.ofInstance i settings).Marks r.object.metadata)
    (scanner : i.loop = .scanner) (kind : r.kind = .namespace) :
    i.Retriggered r ↔ i.metadata.ns = none := by
  obtain ⟨app, name⟩ := blueprint_of_scanner settings scanner
  constructor
  · intro retriggered
    obtain ⟨w, related, watched, _, key, leads, finds⟩ := retriggered r.object.metadata rfl rfl rfl
    have relation := (i.loop.kinds_of_related w related).2.2 (watched.trans kind)
    rw [targets_namespace marks app relation, name] at leads
    cases leads
    have found := finds { loop := .scanner, known := [(i.key, .managed i)], queue := [] } (by
      constructor <;> simp)
    by_cases wide : i.metadata.ns = none
    · exact wide
    have other : (Key.cluster i.key.name == i.key) = false := by
      rw [beq_eq_false_iff_ne]
      intro same
      exact wide (congrArg Key.ns same).symm
    have name : (Key.cluster i.key.name).name = i.key.name := rfl
    simp [Intake.find?, List.lookup_cons, name, other] at found
  · intro wide stored labels _ _
    have storedMarks := marks.congr labels
    let w : Watch := ⟨.namespace, some .managed, .scannerNamespace⟩
    have watched : w ∈ i.loop.related := by
      rw [scanner]
      simp [w, Loop.related]
    have leads : w.targets stored = [.cluster _] := targets_namespace storedMarks app rfl
    refine ⟨w, watched, kind.symm, ?_, _, leads, ?_⟩
    · simp [w, Watch.selects, LabelSelector.holds, LabelSelector.managed, storedMarks.manager]
    · intro intake knows
      rw [name]
      exact Intake.find?_of_knows knows (Or.inl wide)

theorem retriggered_of_owned {object : Resource} {reference : OwnerReference}
    (drawn : i.Drawn settings object) (owner : (Owner.ofInstance i).reference = some reference)
    (shares : (Owner.ofInstance i).sharesScope object.object.metadata.ns = true)
    (watched : Watch.owned i.kind object.kind ∈ i.loop.related) :
    i.Retriggered (object.withOwner reference) := by
  intro stored labels ns owners
  have marks := drawn.marks.congr labels
  have refers : stored.ownerReferences = some [reference] := by
    rw [owners]
    simp [Resource.withOwner, Object.withMetadata, Metadata.withOwner, drawn.unowned]
  refine ⟨_, watched, rfl, ?_, _, targets_owned owner refers _, ?_⟩
  · simp [Watch.owned, Watch.selects, LabelSelector.holds, LabelSelector.managed, marks.manager]
  · intro intake knows
    refine Intake.find?_of_knows knows ?_
    rw [ns]
    exact sharesScope_iff.mp shares

/-- What an instance owns brings a pass over it about when it changes, but for the roles of a
scanner, which are owned and not watched. -/
theorem retriggered_iff {c : Call} {answer : c.Answer}
    (run : (i.pass settings policy).Runs events outcome) (called : .call c answer ∈ events)
    (owns : i.Owns r c) :
    i.Retriggered r ↔ r.kind ≠ .clusterRole ∧ r.kind ≠ .clusterRoleBinding ∧
      (r.kind = .namespace → i.metadata.ns = none) := by
  obtain ⟨step, member, credential, object, drawnFrom, shape⟩ := object_of_owns run called owns
  have drawn := drawn_of_object member drawnFrom
  have kind : r.kind = object.kind := by
    rcases shape with ⟨rfl, _⟩ | ⟨reference, _, _, rfl⟩ <;> rfl
  have marks : (Blueprint.ofInstance i settings).Marks r.object.metadata := by
    rcases shape with ⟨rfl, _⟩ | ⟨reference, _, _, rfl⟩
    · exact drawn.marks
    · exact drawn.marks.congr rfl
  rw [kind]
  rcases watch_of_object member drawnFrom with
    unwatched | ⟨isNamespace, scanner⟩ | ⟨narrow, watched⟩
  · have missed := not_retriggered_of_kind (i := i) (kind ▸ unwatched)
    rcases unwatched with role | binding
    · simp [missed, role]
    · simp [missed, binding]
  · rw [retriggered_namespace_iff marks scanner (kind.trans isNamespace), isNamespace]
    simp
  · rcases shape with ⟨_, isNamespace⟩ | ⟨reference, owner, shares, rfl⟩
    · rw [← kind, isNamespace] at narrow
      cases narrow
    · have retriggered := retriggered_of_owned drawn owner shares watched
      have neither : object.kind ≠ .clusterRole ∧ object.kind ≠ .clusterRoleBinding ∧
          object.kind ≠ .namespace := by
        refine ⟨?_, ?_, ?_⟩ <;> intro same <;> rw [same] at narrow <;> cases narrow
      simp [retriggered, neither]

def cis : Instance :=
  { metadata := { name := some "cis", uid := some "uid-nodescanner-cis" }
    spec := .scanner { ns := "scanning" } }

def cisReference : OwnerReference :=
  { name := "cis", uid := "uid-nodescanner-cis", apiVersion := Kind.nodeScanner.apiVersion
    controller := some true, kind := Kind.nodeScanner.name }

def cisAccount : Resource :=
  (Manifest.serviceAccount (Blueprint.ofInstance cis {})).resource.withOwner cisReference

def cisRole : Resource :=
  (Manifest.clusterRole (Blueprint.ofInstance cis {}) .full).resource.withOwner cisReference

def cisEvents (stored : Object) (timeout gone : StoreError) : List Event :=
  [.call (.get ⟨.namespace, .cluster "scanning"⟩) (.ok stored),
    .call (.apply cisAccount Conventions.fieldManager true) (.ok stored),
    .call (.apply cisRole Conventions.fieldManager true) (.error timeout),
    .call (.get cis.markerStep.slot) (.error gone)]

theorem cis_runs : ∃ outcome, (cis.pass {} {}).Runs
    (cisEvents {} (.request "timeout") (.notFound "NodeScanner cis not found")) outcome :=
  ⟨_, .call _ (.call _ (.call _ (.call _ (.done _))))⟩

theorem cis_retriggered_by_account :
    cis.Owns cisAccount (.apply cisAccount Conventions.fieldManager true) ∧
      cis.Retriggered cisAccount := by
  obtain ⟨outcome, run⟩ := cis_runs
  have owns : cis.Owns cisAccount (.apply cisAccount Conventions.fieldManager true) :=
    .applied rfl (List.mem_singleton.mpr rfl)
  have called : .call (.apply cisAccount Conventions.fieldManager true) (.ok {}) ∈
      cisEvents {} (.request "timeout") (.notFound "NodeScanner cis not found") := by
    simp [cisEvents]
  exact ⟨owns, (retriggered_iff run called owns).mpr ⟨by decide, by decide, by decide⟩⟩

/-- The role of a scanner bears its reference, and can be changed without a pass. -/
theorem cis_not_retriggered_by_role :
    cis.metadata.name.isSome ∧ cis.metadata.uid.isSome ∧
    (∃ events outcome answer, (cis.pass {} {}).Runs events outcome ∧
      .call (.apply cisRole Conventions.fieldManager true) answer ∈ events) ∧
    cis.Owns cisRole (.apply cisRole Conventions.fieldManager true) ∧
    ¬ cis.Retriggered cisRole := by
  obtain ⟨outcome, run⟩ := cis_runs
  refine ⟨rfl, rfl, ⟨_, outcome, .error (.request "timeout"), run, ?_⟩, ?_, ?_⟩
  · simp [cisEvents]
  · exact .applied rfl (List.mem_singleton.mpr rfl)
  · exact not_retriggered_of_kind (Or.inl rfl)

end Instance
end AgentOperator
