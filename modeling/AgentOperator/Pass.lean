import AgentOperator.Manifest.Access
import AgentOperator.Manifest.Workload
import AgentOperator.Pass.Sequence
import AgentOperator.Pass.Status
import AgentOperator.Settings
import AgentOperator.Step

/-!
One pass over an instance: the steps that make its objects, or while it is being deleted the steps
that remove those no owner reference reaches; then the cleanup marker; then its conditions. A
deleted instance that has lost its marker is left alone.
-/
namespace AgentOperator.Instance

def applyStep (i : Instance) (resource : Resource) (onError : Action) : Step :=
  .apply { owner := .ofInstance i, resource, onError }

def deleteStep (resource : Resource) (onError : Action) : Step :=
  .delete { resource, onError }

def credentialStep (i : Instance) (spec : AgentSpec) (settings : Settings) : CredentialStep :=
  { owner := .ofInstance i
    blueprint := .ofAgent i.metadata spec settings
    enabled := spec.credentials
    accountTimeout := settings.platform.accountTimeout }

/-- Steps that bring a live instance about, in order of creation. -/
def applySteps (i : Instance) (settings : Settings) : List Step :=
  let b := Blueprint.ofInstance i settings
  match i.spec with
  | .agent spec => [
      i.applyStep (Manifest.serviceAccount b).resource .stop,
      i.applyStep (Manifest.clusterRole b .full).resource .stop,
      i.applyStep (Manifest.clusterRoleBinding b .full).resource .stop,
      i.applyStep (Manifest.configMap b .full).resource .stop,
      -- the agents run without it
      i.applyStep (Manifest.service b .full).resource .proceed,
      i.applyStep (Manifest.workload b .full).resource .stop,
      .credential (i.credentialStep spec settings)]
  | .scanner _ => [
      .provision ⟨(Manifest.namespaceOf b).resource⟩,
      i.applyStep (Manifest.serviceAccount b).resource .stop,
      i.applyStep (Manifest.clusterRole b .full).resource .stop,
      i.applyStep (Manifest.clusterRoleBinding b .full).resource .stop,
      i.applyStep (Manifest.configMap b .full).resource .stop,
      i.applyStep (Manifest.workload b .full).resource .stop]

/-- Explicit cleanup of a deleted instance; everything else is collected with it. -/
def cleanupSteps (i : Instance) (settings : Settings) : List Step :=
  let b := Blueprint.ofInstance i settings
  match i.spec with
  | .agent _ => [
      deleteStep (Manifest.clusterRoleBinding b .identity).resource .stop,
      deleteStep (Manifest.clusterRole b .identity).resource .stop]
  | .scanner _ => [
      deleteStep (Manifest.clusterRoleBinding b .identity).resource .stop,
      deleteStep (Manifest.clusterRole b .identity).resource .stop,
      deleteStep (Manifest.namespaceOf b).resource .stop]

def workloadKey (i : Instance) (settings : Settings) : Key :=
  (Blueprint.ofInstance i settings).workloadKey

def idleRequeue (i : Instance) (settings : Settings) : Option Duration :=
  match i.spec with
  | .agent spec => if spec.credentials then some settings.refreshInterval else none
  | .scanner _ => none

def markerStep (i : Instance) : MarkerStep := ⟨i.kind, i.key, Conventions.cleanupMarker⟩

def steps (i : Instance) (settings : Settings) : List Step :=
  (if i.metadata.isDeleting then i.cleanupSteps settings else i.applySteps settings) ++
    [.marker i.markerStep]

def statusWriter (i : Instance) (settings : Settings) (policy : RetryPolicy) : StatusWriter :=
  { kind := i.kind, key := i.key, workload := i.workloadKey settings, policy }

/-- An error of a step outranks a status that could not be written. -/
def conclude (i : Instance) (outcome : Outcome) : Except StoreError StatusWrite → Outcome
  | .ok _ => outcome
  | .error source => { outcome with error := outcome.error.or (some (.status i.ident source)) }

def pass (i : Instance) (settings : Settings) (policy : RetryPolicy) : Program Outcome :=
  if i.metadata.isDeleting && !i.metadata.hasMarker Conventions.cleanupMarker then
    return ⟨.idle, none⟩
  else do
    let outcome ← Pass.run settings.requeueDelay ((i.steps settings).map Step.run)
    let written ← (i.statusWriter settings policy).run (outcome.error.map StepError.message)
    return i.conclude outcome written

end AgentOperator.Instance
