import AgentOperator.Proofs.CleanupInventory
import AgentOperator.Proofs.CredentialIssue
import AgentOperator.Proofs.ExpiryRace
import AgentOperator.Proofs.JsonMembers
import AgentOperator.Proofs.ScannerNames
import Mathlib.Data.List.Nodup

/-!
How the objects of one instance refer to each other, read off from what is written. Whatever one of
them names is another one of them, and comes before it. Only the secret of a credential comes last,
since it is issued for the account: the pods start without it.
-/
namespace AgentOperator

def Json.at? : List String → Json → Option Json
  | [], json => some json
  | key :: path, json => (json.get? key).bind (at? path)

def Json.items (path : List String) (json : Json) : List Json :=
  ((json.at? path).bind arr?).getD []

def Fields.Within (selector labels : Fields String) : Prop :=
  ∀ key value, selector.get? key = some value → labels.get? key = some value

def Kind.named : Kind → List Kind
  | .daemonSet => [.serviceAccount, .configMap, .secret]
  | .clusterRoleBinding => [.clusterRole, .serviceAccount]
  | _ => []

theorem Kind.not_mem_named (kind : Kind) : kind ∉ kind.named := by
  cases kind <;> simp [named]

/-- Whatever the store answers, no object but the secret is written, and until the account was found
nothing is done but to look for it. -/
structure Event.IssueFor (account secret : Slot) (events : List Event) : Prop where
  waits : ∀ before after (c : Call) (answer : c.Answer),
    events = before ++ .call c answer :: after →
      c = .get account ∨ ∃ found, .call (.get account) (.ok found) ∈ before
  writes : ∀ (c : Call) (answer : c.Answer), .call c answer ∈ events → c.Makes → c.slot = secret

namespace Resource

def body (r : Resource) : Json := .obj r.object.data

def podSpec : List String := ["spec", "template", "spec"]

def matchLabels (r : Resource) : Option (Fields String) :=
  (r.body.at? ["spec", "selector", "matchLabels"]).bind Json.textMap?

def podLabels (r : Resource) : Option (Fields String) :=
  (r.body.at? ["spec", "template", "metadata", "labels"]).bind Json.textMap?

def accountName (r : Resource) : Option String :=
  (r.body.at? (podSpec ++ ["serviceAccountName"])).bind Json.str?

def containers (r : Resource) : List Json := r.body.items (podSpec ++ ["containers"])

def configNames (r : Resource) : List (Option String) :=
  (r.containers.flatMap (Json.items ["envFrom"])).map fun source =>
    (source.at? ["configMapRef", "name"]).bind Json.str?

def mountNames (r : Resource) : List (Option String) :=
  (r.containers.flatMap (Json.items ["volumeMounts"])).map (·.member? "name" Json.str?)

def volumes (r : Resource) : List Json := r.body.items (podSpec ++ ["volumes"])

def volumeNames (r : Resource) : List (Option String) :=
  r.volumes.map (·.member? "name" Json.str?)

/-- Names of the secrets that are mounted, and whether the pods start without them. -/
def secrets (r : Resource) : List (Option String × Option Bool) :=
  (r.volumes.filterMap (Json.get? "secret")).map fun secret =>
    (secret.member? "secretName" Json.str?, secret.member? "optional" Json.bool?)

def containerPorts (r : Resource) : List (Option String × Option Int) :=
  (r.containers.flatMap (Json.items ["ports"])).map fun port =>
    (port.member? "name" Json.str?, port.member? "containerPort" Json.int?)

def roleRef (r : Resource) : Option (Option String × Option String × Option String) :=
  (r.body.get? "roleRef").map fun role =>
    (role.member? "apiGroup" Json.str?, role.member? "kind" Json.str?,
      role.member? "name" Json.str?)

def subjects (r : Resource) : List (Option String × Option String × Option String) :=
  (r.body.items ["subjects"]).map fun subject =>
    (subject.member? "kind" Json.str?, subject.member? "namespace" Json.str?,
      subject.member? "name" Json.str?)

def serviceSelector (r : Resource) : Option (Fields String) :=
  (r.body.at? ["spec", "selector"]).bind Json.textMap?

def servicePorts (r : Resource) : List (Option String × Option Int) :=
  (r.body.items ["spec", "ports"]).map fun port =>
    (port.member? "targetPort" Json.str?, port.member? "port" Json.int?)

/-- The objects that the object names, by the kinds that may stand in those places. -/
def references (r : Resource) : List Slot :=
  match r.kind with
  | .daemonSet =>
    r.accountName.toList.map (⟨.serviceAccount, r.key.ns, ·⟩) ++
    r.configNames.reduceOption.map (⟨.configMap, r.key.ns, ·⟩) ++
    (r.secrets.filterMap (·.1)).map (⟨.secret, r.key.ns, ·⟩)
  | .clusterRoleBinding =>
    (r.roleRef.bind (·.2.2)).toList.map (⟨.clusterRole, none, ·⟩) ++
    r.subjects.filterMap fun subject => subject.2.2.map (⟨.serviceAccount, subject.2.1, ·⟩)
  | _ => []

theorem kind_of_reference {r : Resource} {slot : Slot} (member : slot ∈ r.references) :
    slot.kind ∈ r.kind.named := by
  unfold references at member
  split at member
  · next kind =>
    rw [kind]
    simp only [List.mem_append, List.mem_map] at member
    rcases member with (⟨_, _, rfl⟩ | ⟨_, _, rfl⟩) | ⟨_, _, rfl⟩ <;> simp [Kind.named]
  · next kind =>
    rw [kind]
    simp only [List.mem_append, List.mem_map, List.mem_filterMap, Option.map_eq_some_iff] at member
    rcases member with ⟨_, _, rfl⟩ | ⟨_, _, _, _, rfl⟩ <;> simp [Kind.named]
  · simp at member

/-- Pods that a selector finds, and that run as an account and with a configuration next to them. -/
structure Runs (workload account config : Resource) : Prop where
  selector : ∃ selector labels, workload.matchLabels = some selector ∧
    workload.podLabels = some labels ∧ selector.Within labels
  account : workload.accountName = some account.key.name ∧ account.key.ns = workload.key.ns
  config : workload.configNames = [some config.key.name] ∧ config.key.ns = workload.key.ns
  mounts : ∀ name, name ∈ workload.mountNames ↔ name ∈ workload.volumeNames

structure Binds (binding role account : Resource) : Prop where
  role : binding.roleRef = some (some role.kind.group, some role.kind.name, some role.key.name)
  account : binding.subjects = [(some account.kind.name, account.key.ns, some account.key.name)]

structure Fronts (service workload : Resource) : Prop where
  selector : ∃ selector labels, service.serviceSelector = some selector ∧
    workload.podLabels = some labels ∧ selector.Within labels
  place : service.key.ns = workload.key.ns
  port : ∃ name number, service.servicePorts = [(some name, some number)] ∧
    (some name, some number) ∈ workload.containerPorts

theorem get?_body (kind : Kind) (metadata : Metadata) (members : List (String × Json))
    (key : String) : (Resource.body ⟨kind, .ofKind kind metadata members⟩).get? key =
      Fields.get? members.reverse key :=
  Fields.get?_ofList members key

theorem Runs.references {workload account config : Resource} (runs : workload.Runs account config)
    (kind : workload.kind = .daemonSet) : workload.references =
      ⟨.serviceAccount, account.key⟩ :: ⟨.configMap, config.key⟩ ::
        (workload.secrets.filterMap (·.1)).map (⟨.secret, workload.key.ns, ·⟩) := by
  have account : account.key = ⟨workload.key.ns, account.key.name⟩ := by rw [← runs.account.2]
  have config : config.key = ⟨workload.key.ns, config.key.name⟩ := by rw [← runs.config.2]
  unfold Resource.references
  rw [kind, runs.account.1, runs.config.1, account, config]
  rfl

theorem Binds.references {binding role account : Resource} (binds : binding.Binds role account)
    (kind : binding.kind = .clusterRoleBinding) : binding.references =
      [⟨.clusterRole, none, role.key.name⟩, ⟨.serviceAccount, account.key⟩] := by
  unfold Resource.references
  rw [kind, binds.role, binds.account]
  rfl

end Resource

theorem Blueprint.selectorLabels_within (b : Blueprint) : b.selectorLabels.Within b.labels := by
  intro key value found
  unfold labels
  rw [Fields.get?_insert]
  split
  · next managed =>
    rw [managed, selectorLabels, Fields.get?_ofList] at found
    simp [Conventions.appLabel, Conventions.instanceLabel, Conventions.managedByLabel] at found
  · exact found

namespace Manifest

def pod (b : Blueprint) : PodSpec :=
  { serviceAccountName := b.name
    nodeSelector := b.nodeSelector
    containers := [container b]
    volumes := volumes b
    tolerations := ["Exists"] }

theorem items_nonEmpty {α : Type} (encode : α → Json) (items : List α) :
    ((nonEmpty encode items).bind Json.arr?).getD [] = items.map encode := by
  cases items <;> rfl

variable (b : Blueprint)

theorem at?_workload (path : List String) :
    (workload b .full).resource.body.at? ("spec" :: path) =
      (WorkloadSpec.encode ⟨b.selectorLabels, b.labels, pod b⟩).at? path := by
  simp [Json.at?, workload, Workload.resource, Resource.get?_body, pod]

theorem at?_podSpec (path : List String) :
    (workload b .full).resource.body.at? (Resource.podSpec ++ path) = (pod b).encode.at? path := by
  rw [Resource.podSpec, List.cons_append, at?_workload]
  simp [Json.at?, WorkloadSpec.encode, Json.get?_object]

theorem podLabels_workload : (workload b .full).resource.podLabels = some b.labels := by
  rw [Resource.podLabels, at?_workload]
  simp [Json.at?, WorkloadSpec.encode, Json.get?_object]

theorem containers_workload :
    (workload b .full).resource.containers = [(container b).encode] := by
  rw [Resource.containers, Json.items, at?_podSpec]
  simp [pod, PodSpec.encode, Json.at?, Json.get?_objectSome, Json.arr?]

theorem volumes_workload :
    (workload b .full).resource.volumes = (volumes b).map Volume.encode := by
  rw [Resource.volumes, Json.items, at?_podSpec, ← items_nonEmpty]
  simp [pod, PodSpec.encode, Json.at?, Json.get?_objectSome]

theorem secrets_workload : (workload b .full).resource.secrets =
    b.credentialSecret.toList.map fun name => (some name, some true) := by
  rw [Resource.secrets, volumes_workload, volumes]
  cases b.credentialSecret <;> cases b.hostFilesystem <;>
    simp [Volume.encode, Json.get?_object, Json.member?, Json.str?, Json.bool?]

theorem names_of_volumes : (workload b .full).resource.mountNames =
    (volumeMounts b).map (some ·.name) ∧
    (workload b .full).resource.volumeNames = (volumes b).map (some ·.name) := by
  have mount (mount : VolumeMount) : mount.encode.member? "name" Json.str? = some mount.name := by
    simp [VolumeMount.encode, Json.member?, Json.get?_object, Json.str?]
  have volume (volume : Volume) : volume.encode.member? "name" Json.str? = some volume.name := by
    unfold Volume.encode
    split <;> simp [Json.member?, Json.get?_object, Json.str?]
  have mounts : (container b).encode.items ["volumeMounts"] =
      (volumeMounts b).map VolumeMount.encode := by
    rw [Json.items, ← items_nonEmpty]
    simp [container, Container.encode, Json.at?, Json.get?_objectSome]
  rw [Resource.mountNames, containers_workload, Resource.volumeNames, volumes_workload]
  simp [mounts, mount, volume]

theorem runs : (workload b .full).resource.Runs (serviceAccount b).resource
    (configMap b .full).resource where
  selector := by
    refine ⟨_, _, ?_, podLabels_workload b, b.selectorLabels_within⟩
    rw [Resource.matchLabels, at?_workload]
    simp [Json.at?, WorkloadSpec.encode, Json.get?_object]
  account := by
    refine ⟨?_, rfl⟩
    rw [Resource.accountName, at?_podSpec]
    simp [pod, PodSpec.encode, Json.at?, Json.get?_objectSome, Json.str?]
    rfl
  config := by
    refine ⟨?_, rfl⟩
    rw [Resource.configNames, containers_workload]
    simp [container, Container.encode, Json.items, Json.at?, Json.get?_objectSome,
      Json.get?_object, Json.arr?, Json.str?]
    rfl
  mounts := by
    obtain ⟨mounts, volumes⟩ := names_of_volumes b
    intro name
    rw [mounts, volumes, volumeMounts, Manifest.volumes]
    cases b.credentialSecret <;> cases b.hostFilesystem <;> simp

theorem binds : (clusterRoleBinding b .full).resource.Binds (clusterRole b .full).resource
    (serviceAccount b).resource where
  role := by
    simp [Resource.roleRef, clusterRoleBinding, ClusterRoleBinding.resource, Resource.get?_body,
      Json.member?, Json.get?_object, Json.str?]
    exact ⟨rfl, rfl, rfl⟩
  account := by
    simp [Resource.subjects, clusterRoleBinding, ClusterRoleBinding.resource, Json.items, Json.at?,
      Resource.get?_body, Json.member?, Json.get?_object, Json.str?, Json.arr?, Subject.encode]
    exact ⟨rfl, rfl, rfl⟩

theorem fronts {number : Int} (port : b.port = some number) :
    (service b .full).resource.Fronts (workload b .full).resource where
  selector := by
    refine ⟨_, _, ?_, podLabels_workload b, b.selectorLabels_within⟩
    simp [Resource.serviceSelector, service, Service.resource, Json.at?, Resource.get?_body,
      ServiceSpec.encode, Json.get?_objectSome]
  place := rfl
  port := by
    refine ⟨portName, number, ?_, ?_⟩
    · simp [Resource.servicePorts, service, Service.resource, Json.items, Json.at?,
        Resource.get?_body, ServiceSpec.encode, Json.get?_objectSome, Json.get?_object, port,
        Json.arr?, ServicePort.encode, Json.member?, Json.str?, Json.int?]
    · rw [Resource.containerPorts, containers_workload]
      simp [container, Container.encode, Json.items, Json.at?, Json.get?_objectSome,
        Json.get?_object, Json.arr?, Json.str?, port, ContainerPort.encode, Json.member?, Json.int?]

end Manifest

theorem Program.found_of_poll {slot : Slot} {window : PollWindow} {events : List Event}
    {object : Object} (run : (Program.poll slot window).Runs events (.ok (some object))) :
    .call (.get slot) (.ok object) ∈ events := by
  obtain ⟨start, looks, rfl, looked⟩ := Program.looked_of_poll run
  clear run
  refine List.mem_cons_of_mem _ ?_
  generalize same : Except.ok (some object) = value at looked
  induction looked with
  | found other =>
    cases same
    exact List.mem_cons_self
  | again text moment span rest ih => simp [ih same]
  | _ => cases same

theorem CredentialStep.issueFor {s : CredentialStep} {events : List Event} {result : StepResult}
    (enabled : s.enabled = true) (run : s.run.Runs events result) :
    Event.IssueFor s.accountSlot s.secretSlot events where
  waits := by
    rw [CredentialStep.run, enabled] at run
    obtain ⟨waiting, account, others, rfl, waited, rest⟩ := Program.runs_bind.mp run
    intro before after c answer split
    rcases Event.split_append split with ⟨middle, early⟩ | ⟨middle, same, late⟩
    · have looked : .call c answer ∈ waiting := by simp [early]
      exact Or.inl (waited.sort_of_mem (Program.only_poll _ _) looked)
    · rcases account with error | _ | account
      · rw [(Program.runs_pure.mp rest).1] at late
        simp at late
      · rw [(Program.runs_pure.mp rest).1] at late
        simp at late
      · rw [same]
        exact Or.inr ⟨account, List.mem_append_left _ (Program.found_of_poll waited)⟩
  writes := by
    intro c answer member makes
    rcases run.sort_of_mem s.only_run member with
      rfl | rfl | token | ⟨r, rfl, there⟩ | rfl
    · rcases makes with same | same <;> cases same
    · rcases makes with same | same <;> cases same
    · rcases makes with same | same <;> cases same.symm.trans token
    · exact there
    · rcases makes with same | same <;> cases same

namespace Instance
variable {i : Instance} {settings : Settings} {credential : Manifest.Credential}

/-- How the objects of an instance refer to each other. -/
structure Wired (i : Instance) (settings : Settings) (credential : Manifest.Credential)
    (account role binding config workload : Resource) : Prop where
  applied : ∀ r ∈ [account, role, binding, config, workload], r ∈ i.objects settings credential
  kinds : [account, role, binding, config, workload].map Resource.kind =
    [.serviceAccount, .clusterRole, .clusterRoleBinding, .configMap, .daemonSet]
  unique : ((i.objects settings credential).map Resource.kind).Nodup
  runs : workload.Runs account config
  binds : binding.Binds role account
  fronts : ∀ service ∈ i.objects settings credential, service.kind = .service →
    service.Fronts workload
  watched : workload.key = i.workloadKey settings
  issuer : ∀ spec, i.spec = .agent spec →
    ∃ s, .credential s ∈ i.applySteps settings ∧ s.enabled = spec.credentials
  /-- The secret that is mounted is the one that is issued for the account. -/
  mounted : ∀ s, .credential s ∈ i.applySteps settings →
    s.accountSlot = account.slot ∧ s.secretSlot.key.ns = workload.key.ns ∧
      workload.secrets = if s.enabled then [(some s.secretSlot.key.name, some true)] else []
  issued : ∀ s, .credential s ∈ i.applySteps settings → s.enabled = true →
    ∀ events result, s.run.Runs events result →
      Event.IssueFor account.slot s.secretSlot events
  bare : ∀ spec, i.spec = .scanner spec → workload.secrets = []
  order : ∀ before step after r slot, i.applySteps settings = before ++ step :: after →
    step.object? credential = some r → slot ∈ r.references →
      (∃ earlier ∈ before, ∃ o, earlier.object? credential = some o ∧ o.slot = slot) ∨
      ∃ s, .credential s ∈ after ∧ s.enabled = true ∧ slot = s.secretSlot

theorem slot_of_object {step : Step} {r : Resource} (member : step ∈ i.applySteps settings)
    (object : step.object? credential = some r) : r.slot = step.target := by
  have brings := brings_of_apply member
  cases step with
  | apply s => cases object; rfl
  | provision s => cases object; rfl
  | credential s => cases object; rfl
  | delete s => cases object
  | marker s => cases object

theorem unique_kinds (i : Instance) (settings : Settings) (credential : Manifest.Credential) :
    ((i.objects settings credential).map Resource.kind).Nodup := by
  unfold objects applySteps
  cases i.spec with
  | agent spec =>
    show [Kind.serviceAccount, .clusterRole, .clusterRoleBinding, .configMap, .service,
      .daemonSet, .secret].Nodup
    decide
  | scanner spec =>
    show [Kind.namespace, .serviceAccount, .clusterRole, .clusterRoleBinding, .configMap,
      .daemonSet].Nodup
    decide

theorem named_before (i : Instance) (settings : Settings) :
    ((i.applySteps settings).map (·.target.kind)).Pairwise fun earlier later =>
      later ∈ earlier.named → later = .secret := by
  unfold applySteps
  cases i.spec with
  | agent spec =>
    show [Kind.serviceAccount, .clusterRole, .clusterRoleBinding, .configMap, .service,
      .daemonSet, .secret].Pairwise _
    decide
  | scanner spec =>
    show [Kind.namespace, .serviceAccount, .clusterRole, .clusterRoleBinding, .configMap,
      .daemonSet].Pairwise _
    decide

theorem objects_by_kind (i : Instance) (settings : Settings) (credential : Manifest.Credential) :
    let b := Blueprint.ofInstance i settings
    ∀ r ∈ [(Manifest.serviceAccount b).resource, (Manifest.clusterRole b .full).resource,
      (Manifest.clusterRoleBinding b .full).resource, (Manifest.configMap b .full).resource,
      (Manifest.workload b .full).resource], r ∈ i.objects settings credential := by
  intro b
  unfold objects applySteps
  cases i.spec <;> simp [Step.object?, applyStep, b]

theorem eq_of_kind {r r' : Resource} (first : r ∈ i.objects settings credential)
    (second : r' ∈ i.objects settings credential) (same : r.kind = r'.kind) : r = r' :=
  List.inj_on_of_nodup_map (i.unique_kinds settings credential) first second same

theorem fronts_of_service {service : Resource} (member : service ∈ i.objects settings credential)
    (kind : service.kind = .service) :
    service.Fronts (Manifest.workload (Blueprint.ofInstance i settings) .full).resource := by
  unfold objects applySteps at member
  cases spec : i.spec with
  | agent agentSpec =>
    rw [spec] at member
    obtain ⟨step, inSteps, object⟩ := List.mem_filterMap.mp member
    simp only [List.mem_cons, List.not_mem_nil, or_false] at inSteps
    have port : (Blueprint.ofInstance i settings).port =
        some (agentSpec.port.getD Conventions.agentPort) := by
      simp [Blueprint.ofInstance, spec, Blueprint.ofAgent]
    rcases inSteps with rfl | rfl | rfl | rfl | rfl | rfl | rfl <;> cases object <;>
      first
        | exact Manifest.fronts _ port
        | cases kind
  | scanner scannerSpec =>
    rw [spec] at member
    obtain ⟨step, inSteps, object⟩ := List.mem_filterMap.mp member
    simp only [List.mem_cons, List.not_mem_nil, or_false] at inSteps
    rcases inSteps with rfl | rfl | rfl | rfl | rfl | rfl <;> cases object <;> cases kind

theorem agent_of_credential {s : CredentialStep} (member : .credential s ∈ i.applySteps settings) :
    ∃ spec, i.spec = .agent spec ∧ s = i.credentialStep spec settings := by
  unfold applySteps at member
  cases spec : i.spec with
  | agent agentSpec =>
    rw [spec] at member
    simp only [applyStep, List.mem_cons, List.not_mem_nil, or_false, reduceCtorEq, false_or]
      at member
    exact ⟨agentSpec, rfl, Step.credential.inj member⟩
  | scanner scannerSpec => simp [spec, applyStep] at member

theorem mem_of_agent {spec : AgentSpec} (agent : i.spec = .agent spec) :
    .credential (i.credentialStep spec settings) ∈ i.applySteps settings := by
  simp [applySteps, agent]

theorem blueprint_of_agent {spec : AgentSpec} (agent : i.spec = .agent spec) :
    Blueprint.ofInstance i settings = (i.credentialStep spec settings).blueprint := by
  simp [credentialStep, Blueprint.ofInstance, agent]

theorem secret_of_credential {s : CredentialStep}
    (member : .credential s ∈ i.applySteps settings) :
    (Blueprint.ofInstance i settings).credentialSecret =
      if s.enabled then some s.secretSlot.key.name else none := by
  obtain ⟨spec, agent, rfl⟩ := agent_of_credential member
  rw [blueprint_of_agent agent]
  rfl

theorem named_applied {r : Resource} {slot : Slot} (member : r ∈ i.objects settings credential)
    (named : slot ∈ r.references) :
    (slot.kind ≠ .secret ∧ ∃ o ∈ i.objects settings credential, o.slot = slot) ∨
      ∃ s, .credential s ∈ i.applySteps settings ∧ s.enabled = true ∧ slot = s.secretSlot := by
  have present := i.objects_by_kind settings credential
  dsimp only at present
  simp only [List.forall_mem_cons, List.not_mem_nil, false_implies, implies_true, and_true]
    at present
  obtain ⟨account, role, binding, config, workload⟩ := present
  have kinds := Resource.kind_of_reference named
  unfold Kind.named at kinds
  split at kinds
  · next kind =>
    obtain rfl := eq_of_kind member workload kind
    rw [(Manifest.runs _).references rfl, Manifest.secrets_workload] at named
    simp only [List.mem_cons] at named
    rcases named with rfl | rfl | named
    · exact Or.inl ⟨by simp, _, account, rfl⟩
    · exact Or.inl ⟨by simp, _, config, rfl⟩
    · right
      cases spec : i.spec with
      | agent agentSpec =>
        have issues : .credential (i.credentialStep agentSpec settings) ∈ i.applySteps settings :=
          mem_of_agent spec
        rw [secret_of_credential issues, blueprint_of_agent spec] at named
        by_cases enabled : (i.credentialStep agentSpec settings).enabled = true
        · rw [if_pos enabled] at named
          exact ⟨_, issues, enabled, List.mem_singleton.mp named⟩
        · rw [if_neg enabled] at named
          cases named
      | scanner scannerSpec =>
        simp [Blueprint.ofInstance, spec, Blueprint.ofScanner] at named
  · next kind =>
    obtain rfl := eq_of_kind member binding kind
    rw [(Manifest.binds _).references rfl] at named
    simp only [List.mem_cons, List.not_mem_nil, or_false] at named
    rcases named with rfl | rfl
    · exact Or.inl ⟨by simp, _, role, rfl⟩
    · exact Or.inl ⟨by simp, _, account, rfl⟩
  · simp at kinds

theorem named_earlier {before after : List Step} {step : Step} {r : Resource} {slot : Slot}
    (split : i.applySteps settings = before ++ step :: after)
    (object : step.object? credential = some r) (named : slot ∈ r.references) :
    (∃ earlier ∈ before, ∃ o, earlier.object? credential = some o ∧ o.slot = slot) ∨
      ∃ s, .credential s ∈ after ∧ s.enabled = true ∧ slot = s.secretSlot := by
  have inSteps : step ∈ i.applySteps settings := by simp [split]
  have kind := Resource.kind_of_reference named
  have order := i.named_before settings
  rw [split, List.map_append, List.map_cons, List.pairwise_append, List.pairwise_cons] at order
  have target : r.kind = step.target.kind := congrArg Slot.kind (slot_of_object inSteps object)
  have other : slot.kind ≠ r.kind := by
    intro same
    rw [same] at kind
    exact r.kind.not_mem_named kind
  rcases named_applied (List.mem_filterMap.mpr ⟨step, inSteps, object⟩) named with
    ⟨notSecret, o, inObjects, there⟩ | ⟨s, issues, enabled, rfl⟩
  · left
    obtain ⟨earlier, member, made⟩ := List.mem_filterMap.mp inObjects
    have place := slot_of_object member made
    rw [split, List.mem_append, List.mem_cons] at member
    rcases member with early | rfl | late
    · exact ⟨earlier, early, o, made, there⟩
    · rw [object] at made
      cases made
      exact absurd (congrArg Slot.kind there).symm other
    · have later : earlier.target.kind ∈ after.map (·.target.kind) := List.mem_map_of_mem late
      rw [← place, there] at later
      rw [target] at kind
      exact absurd (order.2.1.1 _ later kind) notSecret
  · rw [split, List.mem_append, List.mem_cons] at issues
    rcases issues with early | rfl | late
    · exact Or.inl ⟨_, early, _, rfl, rfl⟩
    · cases object
      exact absurd rfl other
    · exact Or.inr ⟨s, late, enabled, rfl⟩

/-- The objects of an instance refer to each other consistently, and in the order in which they are
brought about; only the secret that an agent's pods mount is issued later. -/
theorem objects_wired (i : Instance) (settings : Settings) (credential : Manifest.Credential) :
    ∃ account role binding config workload,
      i.Wired settings credential account role binding config workload := by
  let b := Blueprint.ofInstance i settings
  refine ⟨(Manifest.serviceAccount b).resource, (Manifest.clusterRole b .full).resource,
    (Manifest.clusterRoleBinding b .full).resource, (Manifest.configMap b .full).resource,
    (Manifest.workload b .full).resource, ?_⟩
  have account {s : CredentialStep} (member : .credential s ∈ i.applySteps settings) :
      s.accountSlot = (Manifest.serviceAccount b).resource.slot := by
    obtain ⟨spec, agent, rfl⟩ := agent_of_credential member
    show _ = (Manifest.serviceAccount (Blueprint.ofInstance i settings)).resource.slot
    rw [blueprint_of_agent agent]
    rfl
  exact {
    applied := i.objects_by_kind settings credential
    kinds := rfl
    unique := i.unique_kinds settings credential
    runs := Manifest.runs b
    binds := Manifest.binds b
    fronts := fun service member kind => fronts_of_service member kind
    watched := rfl
    issuer := fun spec agent => ⟨_, mem_of_agent agent, rfl⟩
    mounted := by
      intro s member
      refine ⟨account member, ?_, ?_⟩
      · exact congrArg (·.key.ns) (account member)
      · rw [Manifest.secrets_workload, secret_of_credential member]
        cases s.enabled <;> rfl
    issued := by
      intro s member enabled events result run
      rw [← account member]
      exact CredentialStep.issueFor enabled run
    bare := by
      intro spec scanner
      show (Manifest.workload (Blueprint.ofInstance i settings) .full).resource.secrets = []
      rw [Manifest.secrets_workload, Blueprint.ofInstance, scanner]
      rfl
    order := fun before step after r slot split object named => named_earlier split object named }

open CredentialLoops in
/-- The pods of an agent with a credential name its secret, which no earlier step brings about. -/
theorem telemetry_mounts_unissued :
    ∃ before step after workload slot, telemetry.applySteps {} = before ++ step :: after ∧
      step.object? ⟨"", default⟩ = some workload ∧ slot ∈ workload.references ∧
      (∀ earlier ∈ before, ∀ o, earlier.object? ⟨"", default⟩ = some o → o.slot ≠ slot) ∧
      ∃ s, .credential s ∈ after ∧ s.enabled = true ∧ slot = s.secretSlot := by
  let b := Blueprint.ofInstance telemetry {}
  let secret : Slot := ⟨.secret, .namespaced "observability" "telemetry-token"⟩
  let workload := (Manifest.workload b .full).resource
  have named : secret ∈ workload.references := by
    rw [(Manifest.runs b).references rfl, Manifest.secrets_workload]
    exact List.mem_cons_of_mem _ (List.mem_cons_of_mem _ List.mem_cons_self)
  refine ⟨(telemetry.applySteps {}).take 5, telemetry.applyStep workload .stop,
    [.credential (telemetry.credentialStep { credentials := true } {})], workload, secret, rfl, rfl,
    named, ?_, _, List.mem_cons_self, rfl, rfl⟩
  intro earlier member o object same
  have kinds : ∀ step ∈ (telemetry.applySteps {}).take 5, step.target.kind ≠ .secret := by decide
  have place := slot_of_object (List.mem_of_mem_take member) object
  rw [same] at place
  exact kinds earlier member (congrArg Slot.kind place.symm)

end Instance
end AgentOperator
