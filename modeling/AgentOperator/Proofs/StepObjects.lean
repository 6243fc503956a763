import AgentOperator.Proofs.StepChange

/-!
The objects of an instance. Each step brings one object about, and what it sends to the store is
that object, with a reference to the instance if the two share their scope. All of them are labelled
after the instance, and where they live depends on their kind only.
-/
namespace AgentOperator

def Kind.clusterWide : Kind → Bool
  | .nodeScanner | .clusterRole | .clusterRoleBinding | .namespace => true
  | _ => false

/-- Calls that bring an object about. An instance is only written back. -/
def Call.Makes (c : Call) : Prop := c.verb = .create ∨ c.verb = .apply

namespace Step

def object? (credential : Manifest.Credential) : Step → Option Resource
  | .apply s => some s.resource
  | .provision s => some s.resource
  | .credential s => some (Manifest.credentialSecret s.blueprint credential).resource
  | .delete _ | .marker _ => none

/-- The call by which the step brings its object about, if it has the owner that it refers to. -/
def making? (credential : Manifest.Credential) : Step → Option Call
  | .apply s => s.desired?.map (.apply · Conventions.fieldManager true)
  | .provision s => some (.create s.resource)
  | .credential s => (s.applied credential).desired?.map (.apply · Conventions.fieldManager true)
  | .delete _ | .marker _ => none

def Admits (step : Step) (c : Call) : Prop :=
  c.Makes → ∃ credential, step.making? credential = some c

theorem admits_of_get {step : Step} {slot : Slot} : step.Admits (.get slot) := by
  rintro (same | same) <;> cases same

end Step

namespace CredentialStep

theorem admits_issue (s : CredentialStep) (now : Timestamp) :
    (s.issue now).Only (Step.credential s).Admits := by
  rw [issue, Program.requestToken_bind]
  constructor
  · rintro (same | same) <;> cases same
  · intro answer
    cases answer with
    | error error => trivial
    | ok token =>
      refine Program.Only.bind ((Step.only_run (.apply _)).mono ?_) ?_
      · rintro c ⟨r, desired, rfl⟩ _
        exact ⟨_, Option.map_eq_some_iff.mpr ⟨r, desired, rfl⟩⟩
      · intro result
        dsimp only
        split <;> trivial

theorem admits_run (s : CredentialStep) : s.run.Only (Step.credential s).Admits := by
  have looks (slot : Slot) (window : PollWindow) :
      (Program.poll slot window).Only (Step.credential s).Admits := by
    refine (Program.only_poll slot window).mono ?_
    intro c same
    rw [same]
    exact Step.admits_of_get
  unfold run
  split
  · constructor
    · rintro (same | same) <;> cases same
    · intro answer
      trivial
  · refine Program.Only.bind (looks _ _) ?_
    intro account
    rcases account with error | _ | account
    · trivial
    · trivial
    · dsimp only
      rw [Program.now_bind]
      intro moment
      refine Program.Only.bind (looks _ _) ?_
      intro secret
      rcases secret with error | _ | secret
      · trivial
      · exact s.admits_issue moment.wall
      · dsimp only
        split
        · exact s.admits_issue moment.wall
        · trivial

end CredentialStep

theorem Step.admits_run (step : Step) : step.run.Only step.Admits := by
  cases step with
  | credential s => exact s.admits_run
  | apply s =>
    refine (Step.only_run (.apply s)).mono ?_
    rintro c ⟨r, desired, rfl⟩ _
    exact ⟨⟨"", default⟩, Option.map_eq_some_iff.mpr ⟨r, desired, rfl⟩⟩
  | provision s =>
    refine (Step.only_run (.provision s)).mono ?_
    intro c call
    rcases call with rfl | rfl
    · exact admits_of_get
    · intro _
      exact ⟨⟨"", default⟩, rfl⟩
  | delete s =>
    refine (Step.only_run (.delete s)).mono ?_
    rintro c rfl (same | same) <;> cases same
  | marker s =>
    refine (Step.only_run (.marker s)).mono ?_
    intro c call
    rcases call with rfl | ⟨object, rfl⟩
    · exact admits_of_get
    · rintro (same | same) <;> cases same

structure Blueprint.Marks (b : Blueprint) (m : Metadata) : Prop where
  manager : m.label? Conventions.managedByLabel = some Conventions.fieldManager
  app : m.label? Conventions.appLabel = some b.app.name
  instanceName : m.label? Conventions.instanceLabel = some b.instanceName

namespace Blueprint

theorem get?_labels (b : Blueprint) :
    b.labels.get? Conventions.managedByLabel = some Conventions.fieldManager ∧
      b.labels.get? Conventions.appLabel = some b.app.name ∧
      b.labels.get? Conventions.instanceLabel = some b.instanceName := by
  unfold labels selectorLabels
  simp [Fields.get?_insert, Fields.get?_ofList, Conventions.managedByLabel, Conventions.appLabel,
    Conventions.instanceLabel]

theorem marks_of_labels {b : Blueprint} {m : Metadata} (same : m.labels = some b.labels) :
    b.Marks m := by
  obtain ⟨manager, app, instanceName⟩ := b.get?_labels
  constructor
  · rw [Metadata.label?, same]
    exact manager
  · rw [Metadata.label?, same]
    exact app
  · rw [Metadata.label?, same]
    exact instanceName

theorem marks_of_credential {b : Blueprint} {m : Metadata}
    (same : m.labels = some (b.labels.insert Conventions.credentialLabel "true")) : b.Marks m := by
  obtain ⟨manager, app, instanceName⟩ := b.get?_labels
  constructor
  · rw [Metadata.label?, same, Option.getD_some, Fields.get?_insert_of_ne _ _ (by decide)]
    exact manager
  · rw [Metadata.label?, same, Option.getD_some, Fields.get?_insert_of_ne _ _ (by decide)]
    exact app
  · rw [Metadata.label?, same, Option.getD_some, Fields.get?_insert_of_ne _ _ (by decide)]
    exact instanceName

theorem Marks.congr {b : Blueprint} {m m' : Metadata} (marks : b.Marks m)
    (same : m'.labels = m.labels) : b.Marks m' := by
  have label (name : String) : m'.label? name = m.label? name := by
    unfold Metadata.label?
    rw [same]
  constructor
  · rw [label]
    exact marks.manager
  · rw [label]
    exact marks.app
  · rw [label]
    exact marks.instanceName

end Blueprint

namespace Instance
variable {i : Instance} {settings : Settings} {policy : RetryPolicy} {events : List Event}
  {outcome : Outcome} {step : Step} {credential : Manifest.Credential} {r : Resource}

/-- What all objects of an instance have in common. -/
structure Drawn (i : Instance) (settings : Settings) (r : Resource) : Prop where
  marks : (Blueprint.ofInstance i settings).Marks r.object.metadata
  unowned : r.object.metadata.ownerReferences = none
  place : r.object.metadata.ns =
    if r.kind.clusterWide then none else some (Blueprint.ofInstance i settings).ns

theorem drawn_of_object (member : step ∈ i.applySteps settings)
    (object : step.object? credential = some r) : i.Drawn settings r := by
  have inside (kind : Kind) (name : String) (data : List (String × Json))
      (narrow : kind.clusterWide = false) : i.Drawn settings ⟨kind,
        .ofKind kind ((Blueprint.ofInstance i settings).namespacedMeta name) data⟩ :=
    ⟨Blueprint.marks_of_labels rfl, rfl, by rw [narrow]; rfl⟩
  have wide (kind : Kind) (name : String) (data : List (String × Json))
      (wide : kind.clusterWide = true) : i.Drawn settings ⟨kind,
        .ofKind kind ((Blueprint.ofInstance i settings).clusterMeta name) data⟩ :=
    ⟨Blueprint.marks_of_labels rfl, rfl, by rw [wide]; rfl⟩
  unfold applySteps at member
  cases spec : i.spec with
  | agent agentSpec =>
    simp only [spec, List.mem_cons, List.not_mem_nil, or_false] at member
    rcases member with rfl | rfl | rfl | rfl | rfl | rfl | rfl <;> cases object
    · exact inside _ _ _ rfl
    · exact wide _ _ _ rfl
    · exact wide _ _ _ rfl
    · exact inside _ _ _ rfl
    · exact inside _ _ _ rfl
    · exact inside _ _ _ rfl
    · have same : Blueprint.ofInstance i settings = .ofAgent i.metadata agentSpec settings := by
        simp only [Blueprint.ofInstance, spec]
      constructor
      · rw [same]
        exact Blueprint.marks_of_credential rfl
      · rfl
      · rw [same]
        rfl
  | scanner scannerSpec =>
    simp only [spec, List.mem_cons, List.not_mem_nil, or_false] at member
    rcases member with rfl | rfl | rfl | rfl | rfl | rfl <;> cases object
    · exact wide _ _ _ rfl
    · exact inside _ _ _ rfl
    · exact wide _ _ _ rfl
    · exact wide _ _ _ rfl
    · exact inside _ _ _ rfl
    · exact inside _ _ _ rfl

theorem kind_of_provision {p : ProvisionStep} (member : .provision p ∈ i.applySteps settings) :
    p.resource.kind = .namespace := by
  unfold applySteps at member
  cases spec : i.spec with
  | agent agentSpec => simp [spec, applyStep] at member
  | scanner scannerSpec =>
    simp only [spec, applyStep, List.mem_cons, Step.provision.injEq, reduceCtorEq, or_false,
      List.not_mem_nil] at member
    rw [member]
    rfl

theorem object_of_making {c : Call} (member : step ∈ i.applySteps settings)
    (making : step.making? credential = some c) : ∃ object, step.object? credential = some object ∧
      ((c = .create object ∧ object.kind = .namespace) ∨
        (Owner.ofInstance i).sharesScope object.object.metadata.ns = false ∧
          c = .apply object Conventions.fieldManager true ∨
        ∃ reference, (Owner.ofInstance i).reference = some reference ∧
          (Owner.ofInstance i).sharesScope object.object.metadata.ns = true ∧
          c = .apply (object.withOwner reference) Conventions.fieldManager true) := by
  have brings := brings_of_apply member
  cases step with
  | apply s =>
    obtain ⟨r, desired, rfl⟩ := Option.map_eq_some_iff.mp making
    have owner : s.owner = .ofInstance i := brings.1
    refine ⟨s.resource, rfl, Or.inr ?_⟩
    rcases ApplyStep.cases_of_desired desired with ⟨foreign, rfl⟩ | ⟨reference, owned, shares, rfl⟩
    · exact Or.inl ⟨owner ▸ foreign, rfl⟩
    · exact Or.inr ⟨reference, owner ▸ owned, owner ▸ shares, rfl⟩
  | provision s =>
    cases making
    exact ⟨s.resource, rfl, Or.inl ⟨rfl, kind_of_provision member⟩⟩
  | credential s =>
    obtain ⟨r, desired, rfl⟩ := Option.map_eq_some_iff.mp making
    have owner : s.owner = .ofInstance i := brings
    refine ⟨_, rfl, Or.inr ?_⟩
    rcases ApplyStep.cases_of_desired desired with ⟨foreign, rfl⟩ | ⟨reference, owned, shares, rfl⟩
    · exact Or.inl ⟨owner ▸ foreign, rfl⟩
    · exact Or.inr ⟨reference, owner ▸ owned, owner ▸ shares, rfl⟩
  | delete s => cases making
  | marker s => cases making

theorem making_of_pass {c : Call} {answer : c.Answer}
    (run : (i.pass settings policy).Runs events outcome) (called : .call c answer ∈ events)
    (makes : c.Makes) : i.metadata.isDeleting = false ∧
      ∃ step ∈ i.applySteps settings, ∃ credential, step.making? credential = some c := by
  have admitted : (i.ownProgram settings).Only fun c => c.Makes →
      ∃ step ∈ i.ownSteps settings, ∃ credential, step.making? credential = some c := by
    refine Pass.only_runFrom ?_
    intro program inSteps
    obtain ⟨step, stepIn, rfl⟩ := List.mem_map.mp inSteps
    refine step.admits_run.mono ?_
    intro c admits makes
    exact ⟨step, stepIn, admits makes⟩
  have own : ∃ step ∈ i.ownSteps settings, ∃ credential, step.making? credential = some c := by
    rcases pass_parts run with rfl | ⟨ownEvents, markerEvents, statusEvents, rfl, parts⟩
    · simp at called
    · rcases List.mem_append.mp called with body | last
      · rcases List.mem_append.mp body with first | middle
        · obtain ⟨reached, ran, _⟩ := parts.own_marker
          exact ran.sort_of_mem admitted first makes
        · rcases parts.marker_of_mem middle with rfl | ⟨object, rfl⟩ <;>
            rcases makes with same | same <;> cases same
      · rcases parts.status_of_mem last with ⟨slot, rfl⟩ | ⟨object, rfl⟩ <;>
          rcases makes with same | same <;> cases same
  obtain ⟨step, inOwn, credential, making⟩ := own
  unfold ownSteps at inOwn
  split at inOwn
  · obtain ⟨resource, rfl⟩ := cases_of_cleanup inOwn
    cases making
  · next live => exact ⟨by simpa using live, step, inOwn, credential, making⟩

end Instance
end AgentOperator
