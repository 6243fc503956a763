import AgentOperator.Proofs.StepTrace

/-!
Applying a desired object. A step makes one call at most, and what it sends is the object that it
was given but for the references: in the owner's scope those to others stay in their order, with one
to the owner behind them. Sending what was sent sends the same again.
-/
namespace AgentOperator

def Resource.referring (r : Resource) (references : Option (List OwnerReference)) : Resource :=
  { r with object := r.object.withMetadata fun m => { m with ownerReferences := references } }

/-- Another writer was faster, or the object came into being in the meantime. -/
def StoreError.IsRace (error : StoreError) : Prop :=
  ∃ text, error = .conflict text ∨ error = .alreadyExists text

def StepError.Names (error : StepError) (object : Ident) : Prop :=
  ∃ before after, error.message = before ++ object.render ++ after

namespace ApplyStep
variable {s : ApplyStep} {r : Resource} {references : Option (List OwnerReference)}
  {answer : Except StoreError Object} {result : StepResult}

def Shared (s : ApplyStep) : Prop :=
  s.owner.ident.key.ns = none ∨ s.resource.object.metadata.ns = s.owner.ident.key.ns

/-- With which references the object is sent: in a shared scope with those to others, in their
order, and one to the owner behind them, and with its own in any other. -/
inductive Sends (s : ApplyStep) : Option (List OwnerReference) → Prop where
  | foreign (foreign : ¬ s.Shared) : Sends s s.resource.object.metadata.ownerReferences
  | owned {reference : OwnerReference} (shared : s.Shared)
      (known : s.owner.reference = some reference) :
      Sends s (some ((s.resource.object.metadata.ownerReferences.getD []).filter
        (·.uid ≠ reference.uid) ++ [reference]))

/-- How the step ends after an answer: well, without an error after a race, and with the action
that it was given and the error after any other failure. -/
inductive Ends (s : ApplyStep) : Except StoreError Object → StepResult → Prop where
  | applied (object : Object) : Ends s (.ok object) ⟨.proceed, none⟩
  | raced {error : StoreError} (race : error.IsRace) : Ends s (.error error) ⟨.requeue, none⟩
  | failed {error : StoreError} (noRace : ¬ error.IsRace) :
      Ends s (.error error) ⟨s.onError, some (.apply s.resource.ident error)⟩

theorem ends_iff : s.Ends answer result ↔ result = s.conclude answer := by
  constructor
  · intro ends
    cases ends with
    | applied => rfl
    | raced race =>
      obtain ⟨text, rfl | rfl⟩ := race <;> rfl
    | @failed error noRace =>
      cases error with
      | conflict text => exact absurd ⟨text, Or.inl rfl⟩ noRace
      | alreadyExists text => exact absurd ⟨text, Or.inr rfl⟩ noRace
      | notFound | request => rfl
  · rintro rfl
    rcases answer with error | object
    · cases error with
      | conflict text => exact .raced ⟨text, Or.inl rfl⟩
      | alreadyExists text => exact .raced ⟨text, Or.inr rfl⟩
      | notFound | request => exact .failed (by rintro ⟨_, same | same⟩ <;> cases same)
    · exact .applied object

theorem shared_iff : s.owner.sharesScope s.resource.object.metadata.ns = true ↔ s.Shared :=
  Owner.sharesScope_iff

theorem desired?_eq_some_iff :
    s.desired? = some r ↔
      ∃ references, s.Sends references ∧ r = s.resource.referring references := by
  constructor
  · intro desired
    rcases cases_of_desired desired with ⟨scope, rfl⟩ | ⟨reference, known, scope, rfl⟩
    · exact ⟨_, .foreign fun shared => by simp [shared_iff.mpr shared] at scope, rfl⟩
    · exact ⟨_, .owned (shared_iff.mp scope) known, rfl⟩
  · rintro ⟨references, sends, rfl⟩
    cases sends with
    | foreign foreign => exact if_neg fun scope => foreign (shared_iff.mp scope)
    | owned shared known => exact desired_of_shares (shared_iff.mpr shared) known

theorem others_of_stamped (given : List OwnerReference) (reference : OwnerReference) :
    (given.filter (·.uid ≠ reference.uid) ++ [reference]).filter (·.uid ≠ reference.uid) =
      given.filter (·.uid ≠ reference.uid) := by
  simp [List.filter_append, List.filter_filter]

theorem countP_of_stamped (given : List OwnerReference) (reference : OwnerReference) :
    (given.filter (·.uid ≠ reference.uid) ++ [reference]).countP (·.uid = reference.uid) = 1 := by
  simp [List.countP_append, List.countP_filter]

def resent (s : ApplyStep) (references : Option (List OwnerReference)) : ApplyStep :=
  { s with resource := s.resource.referring references }

theorem Sends.resent (sends : s.Sends references) : (s.resent references).Sends references := by
  cases sends with
  | foreign foreign => exact .foreign foreign
  | @owned reference shared known =>
    let stamped := (s.resource.object.metadata.ownerReferences.getD []).filter
      (·.uid ≠ reference.uid) ++ [reference]
    have again : (s.resent (some stamped)).Sends
        (some (stamped.filter (·.uid ≠ reference.uid) ++ [reference])) := .owned shared known
    rwa [others_of_stamped] at again

theorem Sends.countP_owner {reference : OwnerReference} (sends : s.Sends references)
    (shared : s.Shared) (known : s.owner.reference = some reference) :
    (references.getD []).countP (·.uid = reference.uid) = 1 := by
  cases sends with
  | foreign foreign => exact absurd shared foreign
  | owned _ known' =>
    obtain rfl := Option.some.inj (known.symm.trans known')
    exact countP_of_stamped _ _

theorem run_resent (sends : s.Sends references) : (s.resent references).run = s.run := by
  have sent : s.desired? = some (s.resource.referring references) :=
    desired?_eq_some_iff.mpr ⟨references, sends, rfl⟩
  have again : (s.resent references).desired? = some (s.resource.referring references) :=
    desired?_eq_some_iff.mpr ⟨references, sends.resent, rfl⟩
  unfold run
  rw [sent, again]
  rfl

theorem names_apply (object : Ident) (source : StoreError) :
    (StepError.apply object source).Names object :=
  ⟨"failed to apply ", ": " ++ source.message, by
    show "failed to apply " ++ object.render ++ ": " ++ source.message = _
    rw [String.append_assoc]⟩

theorem names_ownerReference (owner object : Ident) :
    (StepError.ownerReference owner object).Names object :=
  ⟨"cannot set owner reference from " ++ owner.render ++ " on ", ": owner has no name or uid", rfl⟩

theorem runs_iff_sends {events : List Event} :
    s.run.Runs events result ↔
      (s.Shared ∧ s.owner.reference = none ∧ events = [] ∧
        result = ⟨.stop, some (.ownerReference s.owner.ident s.resource.ident)⟩) ∨
      ∃ references answer, s.Sends references ∧ s.Ends answer result ∧
        events = [.call (.apply (s.resource.referring references) Conventions.fieldManager true)
          answer] := by
  rw [runs_iff, desired?_eq_none_iff, shared_iff]
  constructor
  · rintro (⟨⟨shared, unknown⟩, rfl, rfl⟩ | ⟨r, answer, desired, rfl, rfl⟩)
    · exact Or.inl ⟨shared, unknown, rfl, rfl⟩
    · obtain ⟨references, sends, rfl⟩ := desired?_eq_some_iff.mp desired
      exact Or.inr ⟨references, answer, sends, ends_iff.mpr rfl, rfl⟩
  · rintro (⟨shared, unknown, rfl, rfl⟩ | ⟨references, answer, sends, ends, rfl⟩)
    · exact Or.inl ⟨⟨shared, unknown⟩, rfl, rfl⟩
    · exact Or.inr ⟨_, answer, desired?_eq_some_iff.mpr ⟨references, sends, rfl⟩, rfl,
        ends_iff.mp ends⟩

theorem names_of_run {events : List Event} {error : StepError} (run : s.run.Runs events result)
    (failed : result.error = some error) : error.Names s.resource.ident := by
  rcases runs_iff_sends.mp run with ⟨_, _, _, rfl⟩ | ⟨_, _, _, ends, _⟩
  · obtain rfl := Option.some.inj failed
    exact names_ownerReference _ _
  · cases ends with
    | applied | raced => cases failed
    | failed =>
      obtain rfl := Option.some.inj failed
      exact names_apply _ _

/-- A step that applies makes one call, by force and under the name of the operator, with the object
that it was given but for the references, and ends as the answer says; only where the two share a
scope and the owner cannot be referred to it makes none and stops. Every error names the object.
What was sent has one reference to the owner in a shared scope, and to send it again is the same. -/
theorem applies_given_object (s : ApplyStep) :
    (∀ events result, s.run.Runs events result ↔
      (s.Shared ∧ s.owner.reference = none ∧ events = [] ∧
        result = ⟨.stop, some (.ownerReference s.owner.ident s.resource.ident)⟩) ∨
      ∃ references answer, s.Sends references ∧ s.Ends answer result ∧
        events = [.call (.apply (s.resource.referring references) Conventions.fieldManager true)
          answer]) ∧
    (∀ events result error, s.run.Runs events result → result.error = some error →
      error.Names s.resource.ident) ∧
    ∀ references, s.Sends references →
      (∀ reference, s.Shared → s.owner.reference = some reference →
        (references.getD []).countP (·.uid = reference.uid) = 1) ∧
      (s.resent references).run = s.run :=
  ⟨fun _ _ => runs_iff_sends, fun _ _ _ => names_of_run, fun _ sends =>
    ⟨fun _ => sends.countP_owner, run_resent sends⟩⟩

def bystander : OwnerReference :=
  { apiVersion := "apps/v1", kind := "Deployment", name := "console", uid := "console-uid" }

def telemetryReference : OwnerReference :=
  { apiVersion := "agents.nodeagent.dev/v1alpha1", controller := some true, kind := "NodeAgent",
    name := "telemetry", uid := "agent-uid" }

/-- An object in the owner's namespace that has two outdated references to it and one to another. -/
def restamped : ApplyStep :=
  { owner := ⟨⟨"NodeAgent", .namespaced "observability" "telemetry"⟩, some telemetryReference⟩
    resource := ⟨.configMap, { metadata := {
      name := some "telemetry-agent"
      ns := some "observability"
      ownerReferences := some [{ telemetryReference with controller := none }, bystander,
        { telemetryReference with name := "earlier" }] } }⟩
    onError := .stop }

def stampedReferences : Option (List OwnerReference) := some [bystander, telemetryReference]

theorem restamped_applies_once : restamped.Shared ∧ restamped.Sends stampedReferences ∧
    restamped.run.Runs [.call (.apply (restamped.resource.referring stampedReferences)
        Conventions.fieldManager true) (.error (.conflict "the field is owned"))]
      ⟨.requeue, none⟩ ∧
    (∃ error, restamped.run.Runs [.call (.apply (restamped.resource.referring stampedReferences)
        Conventions.fieldManager true) (.error (.request "timeout"))] ⟨.stop, some error⟩ ∧
      error.Names restamped.resource.ident) ∧
    (stampedReferences.getD []).countP (·.uid = telemetryReference.uid) = 1 ∧
    (restamped.resent stampedReferences).run = restamped.run := by
  have shared : restamped.Shared := Or.inr rfl
  have sends : restamped.Sends stampedReferences :=
    @Sends.owned restamped telemetryReference shared rfl
  have raced : restamped.Ends (.error (.conflict "the field is owned")) ⟨.requeue, none⟩ :=
    .raced ⟨_, Or.inl rfl⟩
  have failed : restamped.Ends (.error (.request "timeout"))
      ⟨.stop, some (.apply restamped.resource.ident (.request "timeout"))⟩ :=
    .failed (by rintro ⟨_, same | same⟩ <;> cases same)
  obtain ⟨runs, names, again⟩ := applies_given_object restamped
  have run := (runs _ _).mpr (Or.inr ⟨_, _, sends, failed, rfl⟩)
  exact ⟨shared, sends, (runs _ _).mpr (Or.inr ⟨_, _, sends, raced, rfl⟩),
    ⟨_, run, names _ _ _ run rfl⟩, (again _ sends).1 _ shared rfl, (again _ sends).2⟩

end ApplyStep
end AgentOperator
