import AgentOperator.Proofs.AgentNames
import AgentOperator.Proofs.Collection
import AgentOperator.Proofs.StepEffect

/-!
What a step can change. On a store that never fails a step that has what it needs ends well, and
either leaves the cluster alone or does one thing at its target: it applies there, inserts, or
deletes. Only a deletion can reach what is kept elsewhere.
-/
namespace AgentOperator

namespace Cluster
variable {c : Cluster} {slot : Slot} {r : Resource}

def fresh (r : Resource) : Object :=
  r.object.withMetadata fun m =>
    { m with uid := some (freshUid r.slot), generation := some (m.generation.getD 1) }

def applied (c : Cluster) (r : Resource) : Object :=
  match c.find? r.slot with
  | some stored => c.merged stored r.object
  | none => fresh r

theorem applied_of_found {stored : Object} (found : c.find? r.slot = some stored) :
    c.applied r = c.merged stored r.object := by
  unfold applied
  rw [found]

theorem applied_of_absent (absent : c.find? r.slot = none) : c.applied r = fresh r := by
  unfold applied
  rw [absent]

theorem apply_eq (c : Cluster) (r : Resource) :
    (c.apply r).2 = (c.write r.slot (c.applied r)).2 := by
  unfold apply applied
  cases c.find? r.slot <;> rfl

theorem revives_apply (c : Cluster) (r : Resource) : (c.apply r).2.revives = c.revives :=
  c.revives_carryOut ⟨0, 0⟩ (.apply r "" true)

theorem find?_apply (c : Cluster) (r : Resource) (slot : Slot) :
    (c.apply r).2.find? slot =
      if slot = r.slot then some (stamp (c.applied r) (c.version + 1)) else c.find? slot := by
  rw [apply_eq, find?_write]

theorem find?_apply_of_ne (different : slot ≠ r.slot) :
    (c.apply r).2.find? slot = c.find? slot := by
  rw [find?_apply, if_neg different]

theorem owners_merged (c : Cluster) (stored given : Object) :
    (c.merged stored given).metadata.ownerReferences = given.metadata.ownerReferences := by
  show (given.withStatus stored.status?).metadata.ownerReferences = _
  rw [Object.metadata_withStatus]

end Cluster

theorem ApplyStep.owners_of_desired {s : ApplyStep} {r : Resource}
    (unowned : s.resource.object.Unowned) (desired : s.desired? = some r) :
    r.object.metadata.ownerReferences.getD [] =
      if s.owner.sharesScope s.resource.object.metadata.ns then s.owner.reference.toList
      else [] := by
  rcases cases_of_desired desired with ⟨foreign, rfl⟩ | ⟨reference, owner, shares, rfl⟩
  · rw [foreign]
    exact unowned
  · have none : s.resource.object.metadata.ownerReferences.getD [] = [] := unowned
    have owned : (s.resource.withOwner reference).object.metadata.ownerReferences.getD [] =
        (s.resource.object.metadata.ownerReferences.getD []).filter (·.uid ≠ reference.uid) ++
          [reference] := rfl
    rw [if_pos shares, owner, owned, none]
    rfl

theorem ApplyStep.status?_of_desired {s : ApplyStep} {r : Resource}
    (desired : s.desired? = some r) : r.object.status? = s.resource.object.status? :=
  sent_as_given (·.object.status?) (fun _ _ => rfl) desired

theorem Owner.reference_isSome {i : Instance} (named : i.metadata.name.isSome)
    (identified : i.metadata.uid.isSome) : (Owner.ofInstance i).reference.isSome := by
  obtain ⟨name, isName⟩ := Option.isSome_iff_exists.mp named
  obtain ⟨uid, isUid⟩ := Option.isSome_iff_exists.mp identified
  simp [ofInstance, isName, isUid]

theorem Owner.uid_of_reference {i : Instance} {reference : OwnerReference}
    (refers : (Owner.ofInstance i).reference = some reference) :
    i.metadata.uid = some reference.uid := by
  obtain ⟨name, _, rest⟩ := Option.bind_eq_some_iff.mp refers
  obtain ⟨uid, same, last⟩ := Option.bind_eq_some_iff.mp rest
  rw [same, ← Option.some.inj last]

theorem Owner.uid_of_refers {i : Instance} {shares : Bool} {uid : String}
    (refers : ∃ reference ∈ (if shares then (Owner.ofInstance i).reference.toList else []),
      reference.uid = uid) : i.metadata.uid = some uid := by
  obtain ⟨reference, member, rfl⟩ := refers
  split at member
  · exact Owner.uid_of_reference (by simpa using member)
  · cases member

namespace Step
variable {step : Step} {c c' : Cluster} {slot : Slot} {events : List Event} {result : StepResult}

def target : Step → Slot
  | .apply s => s.resource.slot
  | .delete s => s.resource.slot
  | .provision s => s.resource.slot
  | .credential s => s.secretSlot
  | .marker s => s.slot

/-- The step has what it needs: an owner that can be referred to, and a credential its account. -/
def Ready (c : Cluster) : Step → Prop
  | .apply s => s.desired?.isSome
  | .credential s => s.enabled = true →
      (c.find? s.accountSlot).isSome ∧ ∀ credential, (s.applied credential).desired?.isSome
  | .marker _ => False
  | .delete _ | .provision _ => True

def Removes (c : Cluster) : Step → Prop
  | .delete s => c.Removable s.resource.slot
  | .credential s => s.enabled = false ∧ c.Removable s.secretSlot
  | _ => False

theorem not_removes_of_absent (absent : c.find? step.target = none) : ¬ step.Removes c := by
  intro removes
  cases step with
  | delete s =>
    obtain ⟨o, there, _⟩ := removes
    have none := absent.symm.trans there
    cases none
  | credential s =>
    obtain ⟨_, o, there, _⟩ := removes
    have none := absent.symm.trans there
    cases none
  | apply s => exact removes
  | provision s => exact removes
  | marker s => exact removes

inductive Makes (c c' : Cluster) : Step → Prop where
  | applies {s : ApplyStep} {r : Resource} (desired : s.desired? = some r)
      (effect : c'.Alike (c.apply r).2) : Makes c c' (.apply s)
  | deletes {s : DeleteStep} (now : Timestamp)
      (effect : c'.Alike (c.delete now s.resource.slot).2) : Makes c c' (.delete s)
  | stands {s : ProvisionStep} (present : (c.find? s.resource.slot).isSome)
      (effect : c'.Alike c) : Makes c c' (.provision s)
  | provides {s : ProvisionStep} (absent : c.find? s.resource.slot = none)
      (effect : c'.Alike (c.insert s.resource).2) : Makes c c' (.provision s)
  | drops {s : CredentialStep} (unwanted : s.enabled = false) (now : Timestamp)
      (effect : c'.Alike (c.delete now s.secretSlot).2) : Makes c c' (.credential s)
  | keeps {s : CredentialStep} (wanted : s.enabled = true)
      (account : (c.find? s.accountSlot).isSome) (present : (c.find? s.secretSlot).isSome)
      (effect : c'.Alike c) : Makes c c' (.credential s)
  | issues {s : CredentialStep} {credential : Manifest.Credential} {r : Resource}
      (wanted : s.enabled = true) (account : (c.find? s.accountSlot).isSome)
      (desired : (s.applied credential).desired? = some r)
      (effect : c'.Alike (c.apply r).2) : Makes c c' (.credential s)

theorem run_makes (ready : step.Ready c) (run : step.run.Runs events result)
    (obeys : c.Obeys events c') : result = .ok ∧ step.Makes c c' := by
  cases step with
  | apply s =>
    obtain ⟨r, desired⟩ := Option.isSome_iff_exists.mp ready
    obtain ⟨fine, effect, _⟩ := ApplyStep.effect desired run obeys
    exact ⟨fine, .applies desired effect⟩
  | delete s =>
    obtain ⟨fine, now, effect, _⟩ := DeleteStep.effect run obeys
    exact ⟨fine, .deletes now effect⟩
  | provision s =>
    cases found : c.find? s.resource.slot with
    | none =>
      obtain ⟨fine, effect⟩ := ProvisionStep.effect_of_absent found run obeys
      exact ⟨fine, .provides found effect⟩
    | some o =>
      obtain ⟨fine, effect, _⟩ := ProvisionStep.effect_of_present found run obeys
      exact ⟨fine, .stands (by rw [found]; rfl) effect⟩
  | credential s =>
    cases wanted : s.enabled with
    | false =>
      obtain ⟨fine, now, effect, _⟩ := CredentialStep.effect_of_dropped wanted run obeys
      exact ⟨fine, .drops wanted now effect⟩
    | true =>
      obtain ⟨account, owned⟩ := ready wanted
      obtain ⟨fine, ⟨o, found, effect, _⟩ | ⟨_, credential, r, desired, effect⟩⟩ :=
        CredentialStep.effect_of_wanted wanted account owned run obeys
      · exact ⟨fine, .keeps wanted account (by rw [found]; rfl) effect⟩
      · exact ⟨fine, .issues wanted account desired effect⟩
  | marker s => exact ready.elim

theorem slot_of_issued {s : CredentialStep} {credential : Manifest.Credential} {r : Resource}
    (desired : (s.applied credential).desired? = some r) : r.slot = s.secretSlot :=
  ApplyStep.slot_of_desired desired

theorem Makes.ordered (makes : step.Makes c c') (ordered : c.inventory.Ordered) :
    c'.inventory.Ordered := by
  have applied (r : Resource) (effect : c'.Alike (c.apply r).2) : c'.inventory.Ordered := by
    rw [effect.inventory]
    exact Cluster.ordered_carryOut ordered ⟨0, 0⟩ (.apply r "" true)
  have deleted (now : Timestamp) (slot : Slot) (effect : c'.Alike (c.delete now slot).2) :
      c'.inventory.Ordered := by
    rw [effect.inventory]
    exact Cluster.ordered_carryOut ordered now (.delete slot)
  cases makes with
  | applies desired effect => exact applied _ effect
  | deletes now effect => exact deleted now _ effect
  | stands present effect => exact effect.inventory ▸ ordered
  | provides absent effect =>
    rw [effect.inventory]
    exact Cluster.ordered_write ordered _ _
  | drops unwanted now effect => exact deleted now _ effect
  | keeps wanted account present effect => exact effect.inventory ▸ ordered
  | issues wanted account desired effect => exact applied _ effect

theorem Makes.revives (makes : step.Makes c c') : c'.revives = c.revives := by
  cases makes with
  | applies desired effect => exact effect.revives.trans (c.revives_apply _)
  | deletes now effect => exact effect.revives.trans (c.revives_carryOut now (.delete _))
  | stands present effect => exact effect.revives
  | provides absent effect => exact effect.revives
  | drops unwanted now effect => exact effect.revives.trans (c.revives_carryOut now (.delete _))
  | keeps wanted account present effect => exact effect.revives
  | issues wanted account desired effect => exact effect.revives.trans (c.revives_apply _)

theorem Makes.find?_of_ne (makes : step.Makes c c') (stays : ¬ step.Removes c)
    (different : slot ≠ step.target) : c'.find? slot = c.find? slot := by
  cases makes with
  | applies desired effect =>
    rw [effect.find?]
    exact Cluster.find?_apply_of_ne (ApplyStep.slot_of_desired desired ▸ different)
  | deletes now effect =>
    rw [effect.find?]
    exact Cluster.find?_delete_of_not_removable now stays different
  | stands present effect => exact effect.find? slot
  | provides absent effect =>
    rw [effect.find?]
    exact Cluster.find?_write_of_ne different _
  | drops unwanted now effect =>
    rw [effect.find?]
    exact Cluster.find?_delete_of_not_removable now
      (fun removable => stays ⟨unwanted, removable⟩) different
  | keeps wanted account present effect => exact effect.find? slot
  | issues wanted account desired effect =>
    rw [effect.find?]
    exact Cluster.find?_apply_of_ne (slot_of_issued desired ▸ different)

def Brings (owner : Owner) : Step → Prop
  | .apply s => s.owner = owner ∧ s.resource.object.Plain ∧ s.resource.object.status? = none
  | .provision s => s.resource.object.Plain
  | .credential s => s.owner = owner
  | .delete _ | .marker _ => False

theorem Makes.exists_drop {owner : Owner} (makes : step.Makes c c') (brings : step.Brings owner)
    (removes : step.Removes c) : ∃ s now, step = .credential s ∧ s.enabled = false ∧
      c'.Alike (c.delete now s.secretSlot).2 := by
  cases makes with
  | applies desired effect => exact removes.elim
  | deletes now effect => exact brings.elim
  | stands present effect => exact removes.elim
  | provides absent effect => exact removes.elim
  | drops unwanted now effect => exact ⟨_, now, rfl, unwanted, effect⟩
  | keeps wanted account present effect =>
    rw [Removes, wanted] at removes
    cases removes.1
  | issues wanted account desired effect =>
    rw [Removes, wanted] at removes
    cases removes.1

theorem ready_of_brings {owner : Owner} (brings : step.Brings owner)
    (identified : owner.reference.isSome)
    (account : ∀ s, step = .credential s → s.enabled = true → (c.find? s.accountSlot).isSome) :
    step.Ready c := by
  have desired {s : ApplyStep} (same : s.owner = owner) : s.desired?.isSome := by
    refine Option.isSome_iff_ne_none.mpr fun missing => ?_
    obtain ⟨_, unknown⟩ := ApplyStep.desired?_eq_none_iff.mp missing
    simp [← same, unknown] at identified
  cases step with
  | apply s => exact desired brings.1
  | delete s => trivial
  | provision s => trivial
  | credential s =>
    intro wanted
    exact ⟨account s rfl wanted, fun credential => desired brings⟩
  | marker s => exact brings.elim

end Step

theorem Object.status?_ofKind (kind : Kind) (metadata : Metadata) {data : List (String × Json)}
    (stateless : data.all (·.1 ≠ "status") = true) :
    (Object.ofKind kind metadata data).status? = none := by
  have absent : Fields.get? data.reverse "status" = none := by
    rw [Fields.get?, List.lookup_eq_none_iff]
    intro entry member
    have other :=
      of_decide_eq_true (List.all_eq_true.mp stateless entry (List.mem_reverse.mp member))
    exact bne_iff_ne.mpr (Ne.symm other)
  rw [← absent]
  exact Fields.get?_ofList data "status"

theorem CredentialStep.plain_applied (s : CredentialStep) (credential : Manifest.Credential) :
    (s.applied credential).resource.object.Plain ∧
      (s.applied credential).resource.object.status? = none :=
  ⟨⟨rfl, rfl⟩, Object.status?_ofKind _ _ rfl⟩

namespace Instance
variable {i : Instance} {settings : Settings} {step : Step} {before after : List Step}

theorem brings_of_apply (member : step ∈ i.applySteps settings) :
    step.Brings (.ofInstance i) := by
  have plain (kind : Kind) (metadata : Metadata) (data : List (String × Json)) (onError : Action)
      (unowned : metadata.ownerReferences.getD [] = []) (free : metadata.finalizers.getD [] = [])
      (stateless : data.all (·.1 ≠ "status") = true) :
      (i.applyStep ⟨kind, .ofKind kind metadata data⟩ onError).Brings (.ofInstance i) :=
    ⟨rfl, ⟨unowned, free⟩, Object.status?_ofKind kind metadata stateless⟩
  unfold applySteps at member
  cases spec : i.spec with
  | agent spec =>
    simp only [spec, List.mem_cons, List.not_mem_nil, or_false] at member
    rcases member with rfl | rfl | rfl | rfl | rfl | rfl | rfl
    · exact plain _ _ _ _ rfl rfl rfl
    · exact plain _ _ _ _ rfl rfl rfl
    · exact plain _ _ _ _ rfl rfl rfl
    · exact plain _ _ _ _ rfl rfl rfl
    · exact plain _ _ _ _ rfl rfl rfl
    · exact plain _ _ _ _ rfl rfl rfl
    · rfl
  | scanner spec =>
    simp only [spec, List.mem_cons, List.not_mem_nil, or_false] at member
    rcases member with rfl | rfl | rfl | rfl | rfl | rfl
    · exact ⟨rfl, rfl⟩
    · exact plain _ _ _ _ rfl rfl rfl
    · exact plain _ _ _ _ rfl rfl rfl
    · exact plain _ _ _ _ rfl rfl rfl
    · exact plain _ _ _ _ rfl rfl rfl
    · exact plain _ _ _ _ rfl rfl rfl

theorem applySteps_kinds (i : Instance) (settings : Settings) :
    ((i.applySteps settings).map (·.target.kind)).Nodup := by
  unfold applySteps
  cases i.spec with
  | agent spec =>
    show [Kind.serviceAccount, .clusterRole, .clusterRoleBinding, .configMap, .service,
      .daemonSet, .secret].Nodup
    decide
  | scanner spec =>
    show [Kind.namespace, .serviceAccount, .clusterRole, .clusterRoleBinding, .configMap,
      .daemonSet].Nodup
    decide

theorem kind_of_managed {slot : Slot} (member : slot ∈ i.managed settings) :
    slot.kind ≠ .nodeAgent ∧ slot.kind ≠ .nodeScanner := by
  have kinds : ∀ kind ∈ (i.managed settings).map Slot.kind,
      kind ≠ .nodeAgent ∧ kind ≠ .nodeScanner := by
    unfold managed applySteps cleanupSteps
    cases i.spec with
    | agent spec =>
      show ∀ kind ∈ [Kind.serviceAccount, .clusterRole, .clusterRoleBinding, .configMap, .service,
        .daemonSet, .serviceAccount, .secret, .clusterRoleBinding, .clusterRole], _
      decide
    | scanner spec =>
      show ∀ kind ∈ [Kind.namespace, .serviceAccount, .clusterRole, .clusterRoleBinding,
        .configMap, .daemonSet, .clusterRoleBinding, .clusterRole, .namespace], _
      decide
  exact kinds slot.kind (List.mem_map_of_mem member)

theorem kind_ne_own {slot : Slot} (member : slot ∈ i.managed settings) : slot.kind ≠ i.kind := by
  obtain ⟨notAgent, notScanner⟩ := kind_of_managed member
  unfold Instance.kind
  cases i.spec with
  | agent spec => exact notAgent
  | scanner spec => exact notScanner

theorem slot_notMem_managed (i : Instance) (settings : Settings) :
    i.markerStep.slot ∉ i.managed settings := fun member => kind_ne_own member rfl

theorem target_mem_managed (member : step ∈ i.applySteps settings) :
    step.target ∈ i.managed settings := by
  refine mem_managed.mpr ⟨step, Or.inl member, ?_⟩
  cases step <;> simp [Step.slots, Step.target]

theorem not_provision_of_credential {s : CredentialStep} {p : ProvisionStep}
    (member : .credential s ∈ i.applySteps settings) : .provision p ∉ i.applySteps settings := by
  unfold applySteps at member ⊢
  cases spec : i.spec with
  | agent spec => simp [applyStep]
  | scanner spec => simp [spec, applyStep] at member

theorem applySteps_credential (i : Instance) (settings : Settings) :
    (i.applySteps settings).Pairwise fun a _ => ∀ s, a ≠ .credential s := by
  unfold applySteps
  cases i.spec <;> simp [applyStep]

theorem apart_of_split (split : i.applySteps settings = before ++ step :: after) {a : Step}
    (member : a ∈ before) :
    a.slots = [a.target] ∧ (∀ c, ¬ a.Removes c) ∧ step.target ≠ a.target := by
  have kinds := i.applySteps_kinds settings
  have credential := i.applySteps_credential settings
  have inSteps : a ∈ i.applySteps settings := by
    rw [split]
    exact List.mem_append_left _ member
  rw [split] at kinds credential
  rw [List.map_append, List.map_cons, List.nodup_append] at kinds
  have different : step.target ≠ a.target := by
    intro same
    have kind : a.target.kind ∈ before.map (·.target.kind) := List.mem_map_of_mem member
    exact kinds.2.2 _ kind _ List.mem_cons_self (congrArg Slot.kind same).symm
  have other := (List.pairwise_append.mp credential).2.2 a member step List.mem_cons_self
  have brings := brings_of_apply inSteps
  cases a with
  | apply s => exact ⟨rfl, fun _ => id, different⟩
  | provision s => exact ⟨rfl, fun _ => id, different⟩
  | credential s => exact absurd rfl (other s)
  | delete s => exact brings.elim
  | marker s => exact brings.elim

theorem credential_notMem_before (split : i.applySteps settings = before ++ step :: after)
    (s : CredentialStep) : .credential s ∉ before := by
  intro member
  have one := (apart_of_split split member).1
  simp [Step.slots] at one

theorem account_of_credential {s : CredentialStep}
    (member : .credential s ∈ i.applySteps settings) :
    ∃ a, .apply a ∈ i.applySteps settings ∧ a.resource.slot = s.accountSlot := by
  unfold applySteps at member ⊢
  cases spec : i.spec with
  | agent spec =>
    simp only [spec, applyStep, List.mem_cons, List.not_mem_nil, or_false, reduceCtorEq,
      false_or] at member
    obtain rfl := Step.credential.inj member
    exact ⟨_, List.mem_cons_self, by simp [credentialStep, Blueprint.ofInstance, spec]; rfl⟩
  | scanner spec => simp [spec, applyStep] at member

theorem before_credential {s : CredentialStep}
    (split : i.applySteps settings = before ++ .credential s :: after)
    (member : step ∈ i.applySteps settings) (other : step ≠ .credential s) : step ∈ before := by
  have credential := i.applySteps_credential settings
  rw [split] at credential member
  have last := List.pairwise_cons.mp (List.pairwise_append.mp credential).2.1
  rcases List.mem_append.mp member with early | late
  · exact early
  · rcases List.mem_cons.mp late with same | behind
    · exact absurd same other
    · exact absurd rfl (last.1 _ behind s)

theorem credential_unique {s s' : CredentialStep} (first : .credential s ∈ i.applySteps settings)
    (second : .credential s' ∈ i.applySteps settings) : s' = s := by
  obtain ⟨before, after, split⟩ := List.append_of_mem first
  by_cases same : s' = s
  · exact same
  · have early := before_credential split second (by simp [same])
    exact absurd early (credential_notMem_before split s')

theorem account_before {s : CredentialStep}
    (split : i.applySteps settings = before ++ .credential s :: after) :
    ∃ a, .apply a ∈ before ∧ a.resource.slot = s.accountSlot := by
  obtain ⟨a, member, account⟩ : ∃ a, .apply a ∈ i.applySteps settings ∧
      a.resource.slot = s.accountSlot := account_of_credential (by simp [split])
  exact ⟨a, before_credential split member (by simp), account⟩

end Instance
end AgentOperator
