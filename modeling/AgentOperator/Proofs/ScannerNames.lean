import AgentOperator.Proofs.StepChange
import AgentOperator.Proofs.ScannerPass

/-!
What the steps of a scanner have in common with those of any other instance. Everything that an
instance brings about is called after it in a way that tells agents from scanners and the scanners
from one another, except for the namespace: that is called as the specification says, so scanners
that are installed into one namespace share it and nothing else.
-/
namespace AgentOperator

namespace CredentialStep
variable {s : CredentialStep} {events : List Event} {result : StepResult} {key : Key}
  {request : TokenRequest} {answer : Except StoreError String}

theorem account_of_token (run : s.run.Runs events result)
    (member : .call (.requestToken key request) answer ∈ events) : key = s.accountSlot.key := by
  have silent {slot : Slot} {window : PollWindow} {looks : List Event}
      {value : Except StoreError (Option Object)}
      (run : (Program.poll slot window).Runs looks value) :
      .call (.requestToken key request) answer ∉ looks := by
    intro called
    cases run.sort_of_mem (Program.only_poll slot window) called
  cases did_of_run run with
  | removed unwanted run =>
    obtain ⟨_, rfl, _⟩ := DeleteStep.runs_iff.mp run
    simp at member
  | refused wanted waited => exact absurd member (silent waited)
  | missed wanted waited => exact absurd member (silent waited)
  | unread wanted waited looked => simp [silent waited, silent looked] at member
  | kept wanted waited looked good => simp [silent waited, silent looked] at member
  | @renewed _ _ last _ _ _ _ wanted waited looked due issuance =>
    have inLast : .call (.requestToken key request) answer ∈ last := by
      simpa [silent waited, silent looked] using member
    cases issuance <;>
    · obtain ⟨⟨account, _⟩, _⟩ : (key = s.accountSlot.key ∧ _) ∧ _ := by simpa using inLast
      exact account

end CredentialStep

/-- Whatever a step is told, it addresses nothing but its own slots. Only a marker goes by the key
of the copy that it was answered. -/
theorem Step.slot_of_call {step : Step} {events : List Event} {result : StepResult} {c : Call}
    {answer : c.Answer} (notMarker : ∀ m, step ≠ .marker m) (run : step.run.Runs events result)
    (called : .call c answer ∈ events) : c.slot ∈ step.slots := by
  have sort := run.sort_of_mem step.only_run called
  cases step with
  | credential s =>
    rcases sort with rfl | rfl | token | ⟨r, rfl, there⟩ | rfl
    · exact List.mem_cons_self
    · exact List.mem_cons_of_mem _ List.mem_cons_self
    · cases c with
      | requestToken key request =>
        have account := CredentialStep.account_of_token run called
        simp [Step.slots, Call.slot, account, CredentialStep.accountSlot]
      | _ => cases token
    · simp [Step.slots, Call.slot, there]
    · exact List.mem_cons_of_mem _ List.mem_cons_self
  | apply s =>
    obtain ⟨r, desired, rfl⟩ := sort
    exact List.mem_singleton.mpr (ApplyStep.slot_of_desired desired)
  | delete s =>
    obtain rfl := sort
    exact List.mem_singleton.mpr rfl
  | provision s => rcases sort with rfl | rfl <;> exact List.mem_singleton.mpr rfl
  | marker s => exact absurd rfl (notMarker s)

namespace Blueprint
variable {m m' : Metadata} {spec spec' : ScannerSpec} {agent : AgentSpec}
  {settings settings' : Settings} {kind : Kind}

/-- What the objects of an instance are called, kind by kind. -/
def nameOf (b : Blueprint) : Kind → String
  | .clusterRole | .clusterRoleBinding => b.clusterName
  | .secret => credentialName b.instanceName
  | .namespace => b.ns
  | _ => b.name

/-- An agent's objects end in `-agent` or begin with `node-agent-`, and a scanner's do not. -/
theorem nameOf_scanner_ne_agent (notNamespace : kind ≠ .namespace) (notSecret : kind ≠ .secret) :
    (ofScanner m spec settings).nameOf kind ≠ (ofAgent m' agent settings').nameOf kind := by
  have cluster : (ofScanner m spec settings).clusterName ≠
      (ofAgent m' agent settings').clusterName := by
    intro same
    have sixth := congrArg (fun text => text.toList[5]?) same
    simp [ofScanner, ofAgent] at sixth
  have inside : (ofScanner m spec settings).name ≠ (ofAgent m' agent settings').name := by
    intro same
    have last := congrArg (fun text => text.toList.getLast?) same
    simp [ofScanner, ofAgent] at last
  cases kind with
  | clusterRole | clusterRoleBinding => exact cluster
  | «namespace» => exact absurd rfl notNamespace
  | secret => exact absurd rfl notSecret
  | _ => exact inside

theorem instanceName_of_nameOf (notNamespace : kind ≠ .namespace)
    (same : (ofScanner m spec settings).nameOf kind = (ofScanner m' spec' settings').nameOf kind) :
    m.name.getD "" = m'.name.getD "" := by
  cases kind with
  | clusterRole | clusterRoleBinding => exact (String.append_right_inj _).mp same
  | «namespace» => exact absurd rfl notNamespace
  | _ => exact (String.append_left_inj _).mp same

end Blueprint

namespace Instance
variable {i j : Instance} {spec : ScannerSpec} {settings settings' : Settings} {slot : Slot}
  {n : String}

theorem name_of_managed (member : slot ∈ i.managed settings) :
    slot.key.name = (Blueprint.ofInstance i settings).nameOf slot.kind := by
  unfold managed applySteps cleanupSteps at member
  unfold Blueprint.ofInstance at member ⊢
  cases spec : i.spec with
  | agent spec =>
    simp only [spec, List.cons_append, List.nil_append, List.flatMap_cons, List.flatMap_nil,
      List.append_nil, Step.slots, applyStep, deleteStep, List.mem_cons, List.not_mem_nil,
      or_false] at member
    rcases member with rfl | rfl | rfl | rfl | rfl | rfl | rfl | rfl | rfl | rfl <;> rfl
  | scanner spec =>
    simp only [spec, List.cons_append, List.nil_append, List.flatMap_cons, List.flatMap_nil,
      List.append_nil, Step.slots, applyStep, deleteStep, List.mem_cons, List.not_mem_nil,
      or_false] at member
    rcases member with rfl | rfl | rfl | rfl | rfl | rfl | rfl | rfl | rfl <;> rfl

def InstalledInto (i : Instance) (n : String) : Prop := ∃ spec, i.spec = .scanner spec ∧ spec.ns = n

theorem nsSlot_mem_managed (installed : i.InstalledInto n) (settings : Settings) :
    nsSlot n ∈ i.managed settings := by
  obtain ⟨spec, scanner, rfl⟩ := installed
  obtain ⟨workload, role, slots⟩ := managed_of_scanner scanner settings
  rw [slots]
  exact List.mem_cons_self

theorem installed_of_namespace (member : slot ∈ i.managed settings)
    (kind : slot.kind = .namespace) : ∃ n, i.InstalledInto n ∧ slot = nsSlot n := by
  cases spec : i.spec with
  | agent agent =>
    have kinds : ∀ kind ∈ (i.managed settings).map Slot.kind, kind ≠ .namespace := by
      unfold managed applySteps cleanupSteps
      rw [spec]
      show ∀ kind ∈ [Kind.serviceAccount, .clusterRole, .clusterRoleBinding, .configMap, .service,
        .daemonSet, .serviceAccount, .secret, .clusterRoleBinding, .clusterRole], _
      decide
    exact absurd kind (kinds slot.kind (List.mem_map_of_mem member))
  | scanner scanner =>
    obtain ⟨workload, role, slots⟩ := managed_of_scanner spec settings
    have listed := member
    simp only [slots, List.mem_cons, List.not_mem_nil, or_false] at listed
    have same : slot = nsSlot scanner.ns := by
      rcases listed with rfl | rfl | rfl | rfl | rfl | rfl | rfl | rfl | rfl
      all_goals first
        | rfl
        | cases kind
    exact ⟨scanner.ns, ⟨scanner, spec, rfl⟩, same⟩

theorem not_secret_of_scanner (scanner : i.spec = .scanner spec)
    (member : slot ∈ i.managed settings) : slot.kind ≠ .secret := by
  obtain ⟨workload, role, slots⟩ := managed_of_scanner scanner settings
  simp only [slots, List.mem_cons, List.not_mem_nil, or_false] at member
  rcases member with rfl | rfl | rfl | rfl | rfl | rfl | rfl | rfl | rfl <;> simp [nsSlot]

theorem namespace_of_shared (scanner : i.kind = .nodeScanner)
    (different : j.kind = .nodeScanner → i.key.name ≠ j.key.name)
    (mine : slot ∈ i.managed settings) (yours : slot ∈ j.managed settings') :
    slot.kind = .namespace := by
  have sameName := (name_of_managed mine).symm.trans (name_of_managed yours)
  unfold Blueprint.ofInstance at sameName
  cases own : i.spec with
  | agent agent =>
    rw [kind, own] at scanner
    cases scanner
  | scanner spec =>
    refine Decidable.byContradiction fun notNamespace => ?_
    cases other : j.spec with
    | agent agent =>
      rw [own, other] at sameName
      exact Blueprint.nameOf_scanner_ne_agent notNamespace (not_secret_of_scanner own mine) sameName
    | scanner spec' =>
      rw [own, other] at sameName
      exact different (kind_of_scanner other)
        (Blueprint.instanceName_of_nameOf notNamespace sameName)

theorem slot_of_step {step : Step} {events : List Event} {result : StepResult} {c : Call}
    {answer : c.Answer} (member : step ∈ i.applySteps settings ++ i.cleanupSteps settings)
    (run : step.run.Runs events result) (called : .call c answer ∈ events) :
    c.slot ∈ i.managed settings := by
  have notMarker : ∀ m, step ≠ .marker m := by
    rintro m rfl
    rcases List.mem_append.mp member with apply | cleanup
    · exact brings_of_apply apply
    · obtain ⟨resource, same⟩ := cases_of_cleanup cleanup
      cases same
  exact mem_managed.mpr
    ⟨step, List.mem_append.mp member, Step.slot_of_call notMarker run called⟩

/-- A scanner shares with an agent, or with a scanner of another name, exactly the namespace that
both are installed into; and whatever the store answers to their steps, these meet nowhere else. -/
theorem shared_iff_installed (scanner : i.kind = .nodeScanner)
    (different : j.kind = .nodeScanner → i.key.name ≠ j.key.name) (settings settings' : Settings) :
    (∀ slot, (slot ∈ i.managed settings ∧ slot ∈ j.managed settings') ↔
      ∃ n, i.InstalledInto n ∧ j.InstalledInto n ∧ slot = nsSlot n) ∧
    ∀ step ∈ i.applySteps settings ++ i.cleanupSteps settings,
      ∀ step' ∈ j.applySteps settings' ++ j.cleanupSteps settings',
      ∀ events result events' result', step.run.Runs events result →
        step'.run.Runs events' result' →
        ∀ (c c' : Call) (answer : c.Answer) (answer' : c'.Answer), .call c answer ∈ events →
          .call c' answer' ∈ events' → c.slot = c'.slot →
          ∃ n, i.InstalledInto n ∧ j.InstalledInto n ∧ c.slot = nsSlot n := by
  have shared : ∀ slot, (slot ∈ i.managed settings ∧ slot ∈ j.managed settings') ↔
      ∃ n, i.InstalledInto n ∧ j.InstalledInto n ∧ slot = nsSlot n := by
    intro slot
    constructor
    · rintro ⟨mine, yours⟩
      have kind := namespace_of_shared scanner different mine yours
      obtain ⟨n, installed, rfl⟩ := installed_of_namespace mine kind
      obtain ⟨n', installed', same⟩ := installed_of_namespace yours kind
      rw [← nsSlot_injective same] at installed'
      exact ⟨n, installed, installed', rfl⟩
    · rintro ⟨n, installed, installed', rfl⟩
      exact ⟨nsSlot_mem_managed installed settings, nsSlot_mem_managed installed' settings'⟩
  refine ⟨shared, ?_⟩
  intro step member step' member' events result events' result' run run' c c' answer answer'
    called called' same
  have mine := slot_of_step member run called
  have yours := slot_of_step member' run' called'
  rw [← same] at yours
  exact (shared c.slot).mp ⟨mine, yours⟩

def scannerIn (name ns : String) : Instance :=
  { metadata := { name := some name, uid := some (name ++ "-uid") }, spec := .scanner { ns } }

/-- Two scanners in one namespace, the one named as the other's objects are. -/
theorem scanners_share_namespace :
    let first := scannerIn "cis" "scanning"
    let second := scannerIn "cis-scanner" "scanning"
    first.kind = .nodeScanner ∧ (second.kind = .nodeScanner → first.key.name ≠ second.key.name) ∧
      ∀ slot, (slot ∈ first.managed {} ∧ slot ∈ second.managed {}) ↔ slot = nsSlot "scanning" := by
  intro first second
  have different : second.kind = .nodeScanner → first.key.name ≠ second.key.name :=
    fun _ => by decide
  refine ⟨rfl, different, ?_⟩
  intro slot
  rw [(shared_iff_installed (i := first) (j := second) rfl different {} {}).1 slot]
  constructor
  · rintro ⟨n, ⟨spec, own, rfl⟩, _, rfl⟩
    cases own
    rfl
  · rintro rfl
    exact ⟨"scanning", ⟨_, rfl, rfl⟩, ⟨_, rfl, rfl⟩, rfl⟩

end Instance
end AgentOperator
