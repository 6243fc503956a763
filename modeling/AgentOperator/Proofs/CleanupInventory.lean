import AgentOperator.Proofs.Footprint
import AgentOperator.Proofs.StepObjects

/-!
What becomes of the objects of an instance when it goes. Those that share its scope are collected
with it, and the cleanup deletes those that belong to no namespace, in the reverse order of their
creation. It addresses them without their contents.
-/
namespace AgentOperator

structure Address where
  group : String
  version : String
  kind : String
  plural : String
  key : Key
  deriving DecidableEq, Repr

def Resource.address (r : Resource) : Address :=
  ⟨r.kind.group, r.kind.version, r.kind.name, r.kind.plural, r.key⟩

def Step.deleted? : Step → Option Resource
  | .delete s => some s.resource
  | _ => none

theorem Owner.controller_of_reference {i : Instance} {reference : OwnerReference}
    (owner : (Owner.ofInstance i).reference = some reference) :
    reference.controller = some true := by
  obtain ⟨name, _, rest⟩ := Option.bind_eq_some_iff.mp owner
  obtain ⟨uid, _, made⟩ := Option.bind_eq_some_iff.mp rest
  rw [← Option.some.inj made]

namespace Instance
variable {i : Instance} {settings : Settings} {credential : Manifest.Credential}

def objects (i : Instance) (settings : Settings) (credential : Manifest.Credential) :
    List Resource :=
  (i.applySteps settings).filterMap (Step.object? credential)

def cleaned (i : Instance) (settings : Settings) : List Address :=
  ((i.cleanupSteps settings).filterMap Step.deleted?).map Resource.address

theorem cleaned_eq (i : Instance) (settings : Settings) (credential : Manifest.Credential) :
    i.cleaned settings =
      ((i.objects settings credential).filter (·.object.metadata.ns.isNone)).reverse.map
        Resource.address := by
  unfold cleaned objects cleanupSteps applySteps
  cases i.spec with
  | agent spec => rfl
  | scanner spec => rfl

theorem making_of_shares {step : Step} {r : Resource} {reference : OwnerReference}
    (member : step ∈ i.applySteps settings) (object : step.object? credential = some r)
    (narrow : r.kind.clusterWide = false)
    (shares : (Owner.ofInstance i).sharesScope r.object.metadata.ns = true)
    (owner : (Owner.ofInstance i).reference = some reference) :
    step.making? credential =
      some (.apply (r.withOwner reference) Conventions.fieldManager true) := by
  have brings := brings_of_apply member
  cases step with
  | apply s =>
    cases object
    have same : s.owner = .ofInstance i := brings.1
    rw [← same] at shares owner
    rw [Step.making?, ApplyStep.desired_of_shares shares owner]
    rfl
  | credential s =>
    cases object
    have same : (s.applied credential).owner = .ofInstance i := brings
    rw [← same] at shares owner
    rw [Step.making?, ApplyStep.desired_of_shares shares owner]
    rfl
  | provision s =>
    cases object
    rw [kind_of_provision member] at narrow
    cases narrow
  | delete s => cases object
  | marker s => cases object

/-- What an instance brings about is collected with it if it lives in a namespace, and is deleted by
the cleanup if it belongs to none. The cleanup deletes just the latter, in reverse, for any instance
whatsoever. -/
theorem collected_or_cleaned (i : Instance) (settings : Settings)
    (credential : Manifest.Credential) :
    (i.metadata.name.isSome → i.metadata.uid.isSome → i.Housed →
      ∀ step ∈ i.applySteps settings, ∀ r, step.object? credential = some r →
        ((Owner.ofInstance i).sharesScope r.object.metadata.ns = true ∧
          ∃ reference, (Owner.ofInstance i).reference = some reference ∧
            reference.controller = some true ∧ step.making? credential =
              some (.apply (r.withOwner reference) Conventions.fieldManager true)) ∨
          r.address ∈ i.cleaned settings) ∧
    i.cleaned settings =
      ((i.objects settings credential).filter (·.object.metadata.ns.isNone)).reverse.map
        Resource.address := by
  refine ⟨?_, i.cleaned_eq settings credential⟩
  intro named identified housed step member r object
  have place := (drawn_of_object member object).place
  cases wide : r.kind.clusterWide with
  | true =>
    right
    have inObjects : r ∈ i.objects settings credential :=
      List.mem_filterMap.mpr ⟨step, member, object⟩
    rw [i.cleaned_eq settings credential, List.mem_map]
    refine ⟨r, ?_, rfl⟩
    simp [inObjects, place, wide]
  | false =>
    left
    rw [wide] at place
    have shares : (Owner.ofInstance i).sharesScope r.object.metadata.ns = true := by
      rw [place]
      exact sharesScope_of_housed housed settings
    obtain ⟨reference, owner⟩ :=
      Option.isSome_iff_exists.mp (Owner.reference_isSome named identified)
    exact ⟨shares, reference, owner, Owner.controller_of_reference owner,
      making_of_shares member object wide shares owner⟩

def sweeper : Instance :=
  { metadata := { name := some "sweeper", uid := some "sweeper-uid" }
    spec := .scanner { ns := "scanning" } }

theorem sweeper_collected_or_cleaned :
    sweeper.Housed ∧
    (∀ step ∈ sweeper.applySteps {}, ∀ r, step.object? ⟨"", default⟩ = some r →
      (∃ reference, step.making? ⟨"", default⟩ =
        some (.apply (r.withOwner reference) Conventions.fieldManager true)) ∨
        r.address ∈ sweeper.cleaned {}) ∧
    (sweeper.cleaned {}).map Address.kind = ["ClusterRoleBinding", "ClusterRole", "Namespace"] := by
  have housed : sweeper.Housed := fun _ _ => Or.inl rfl
  obtain ⟨each, order⟩ := collected_or_cleaned sweeper {} ⟨"", default⟩
  refine ⟨housed, ?_, by rw [order]; rfl⟩
  intro step member r object
  rcases each rfl rfl housed step member r object with ⟨_, reference, _, _, making⟩ | deleted
  · exact Or.inl ⟨reference, making⟩
  · exact Or.inr deleted

/-- A scanner that is stored in another namespace than the one it works in. -/
def strayed : Instance := { sweeper with metadata := { sweeper.metadata with ns := some "audit" } }

/-- Its service account is applied without a reference, and no cleanup deletes it. -/
theorem strayed_leaves_account :
    strayed.metadata.name.isSome ∧ strayed.metadata.uid.isSome ∧
    ∃ step ∈ strayed.applySteps {}, ∃ r, step.object? ⟨"", default⟩ = some r ∧
      (Owner.ofInstance strayed).sharesScope r.object.metadata.ns = false ∧
      step.making? ⟨"", default⟩ = some (.apply r Conventions.fieldManager true) ∧
      r.object.metadata.ownerReferences = none ∧ r.address ∉ strayed.cleaned {} := by
  refine ⟨rfl, rfl, _, List.mem_cons_of_mem _ List.mem_cons_self, _, rfl, by decide, rfl, rfl, ?_⟩
  decide

end Instance
end AgentOperator
