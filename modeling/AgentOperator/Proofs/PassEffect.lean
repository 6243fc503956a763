import AgentOperator.Proofs.StepEffect

/-!
What a pass makes of a store that never fails. Its steps run one behind the other; whoever shows
that each of them ends well and what it keeps of the cluster has shown it of all of them, and then
the marker is looked at, the status after it, and no error is reported. Passes over copies of what
is stored in each case follow one another, and their copies are of one instance as long as its
identity and specification stay.
-/
namespace AgentOperator

/-- Each of the steps, run behind those before it, ends well, does events of a sort, and keeps what
is said of the steps that have run. -/
def Step.Threads (kept : List Step → Cluster → Prop) (sort : Event → Prop) (whole : List Event)
    (steps : List Step) : Prop :=
  ∀ before step after, steps = before ++ step :: after →
    ∀ {c c' : Cluster} {own : List Event} {result : StepResult}, kept before c →
      step.run.Runs own result → c.Obeys own c' → (∀ e ∈ own, e ∈ whole) →
      result = .ok ∧ (∀ e ∈ own, sort e) ∧ kept (before ++ [step]) c'

namespace Pass
variable {kept : List Step → Cluster → Prop} {sort : Event → Prop} {whole events : List Event}
  {done steps : List Step} {results : List StepResult} {result : StepResult} {c c' : Cluster}

theorem Ran.thread (ran : Ran (steps.map Step.run) events results) (obeys : c.Obeys events c')
    (within : ∀ e ∈ events, e ∈ whole) (threads : Step.Threads kept sort whole (done ++ steps))
    (start : kept done c) :
    (∀ r ∈ results, r = .ok) ∧ (∀ e ∈ events, sort e) ∧ kept (done ++ steps) c' := by
  induction steps generalizing done events results c with
  | nil =>
    cases ran
    obtain rfl := obeys.eq_of_nil
    exact ⟨by simp, by simp, by simpa using start⟩
  | cons step rest ih =>
    cases ran with
    | @proceeded _ _ own others result results run proceeds after =>
      obtain ⟨d, first, last⟩ := obeys.split
      obtain ⟨rfl, own_sort, kept_own⟩ := threads done step rest rfl start run first
        fun e member => within e (List.mem_append_left others member)
      have regrouped : done ++ step :: rest = done ++ [step] ++ rest := by simp
      rw [regrouped] at threads ⊢
      obtain ⟨fine, others_sort, kept_all⟩ := ih after last
        (fun e member => within e (List.mem_append_right own member)) threads kept_own
      refine ⟨?_, ?_, kept_all⟩
      · intro r member
        rcases List.mem_cons.mp member with rfl | later
        · rfl
        · exact fine r later
      · intro e member
        rcases List.mem_append.mp member with here | later
        · exact own_sort e here
        · exact others_sort e later
    | ended run ends =>
      have fine := (threads done step rest rfl start run obeys within).1
      rw [fine] at ends
      exact absurd rfl ends

theorem conclude_concat (delay : Duration) {early : List StepResult}
    (fine : ∀ r ∈ early, r = .ok) (last : StepResult) :
    conclude delay none (early ++ [last]) = conclude delay none [last] := by
  induction early with
  | nil => rfl
  | cons first rest ih =>
    obtain rfl := fine first List.mem_cons_self
    rw [List.cons_append, conclude_cons delay none rfl]
    exact ih fun r member => fine r (List.mem_cons_of_mem _ member)

end Pass

namespace MarkerStep
variable {s : MarkerStep} {c c' : Cluster} {events : List Event} {result : StepResult}
  {stored : Object}

inductive Settles (s : MarkerStep) (c c' : Cluster) : List Event → StepResult → Prop where
  | absent {events : List Event} (absent : c.find? s.slot = none) (effect : c'.Alike c) :
      Settles s c c' events .ok
  | steady {stored : Object} (found : c.find? s.slot = some stored)
      (steady : s.amended? stored = none) (effect : c'.Alike c) :
      Settles s c c' [.call (.get s.slot) (.ok stored)] .ok
  | amended {events : List Event} {stored changed : Object}
      (found : c.find? s.slot = some stored) (amended : s.amended? stored = some changed)
      (effect : c'.Alike (c.replace ⟨s.kind, changed⟩).2) : Settles s c c' events .stop

theorem run_effect (key : ∀ stored, c.find? s.slot = some stored → stored.metadata.key = s.key)
    (run : s.run.Runs events result) (obeys : c.Obeys events c') :
    s.Settles c c' events result := by
  cases found : c.find? s.slot with
  | none =>
    obtain ⟨rfl, effect⟩ := effect_of_absent found run obeys
    exact .absent found effect
  | some stored =>
    cases amended : s.amended? stored with
    | none =>
      obtain ⟨rfl, effect, rfl⟩ := effect_of_steady found amended run obeys
      exact .steady found amended effect
    | some changed =>
      obtain ⟨rfl, effect⟩ := effect_of_amended found (key stored found) amended run obeys
      exact .amended found amended effect

theorem Settles.keyed (settles : s.Settles c c' events result)
    (key : ∀ stored, c.find? s.slot = some stored → stored.metadata.key = s.key)
    (found : c'.find? s.slot = some stored) : stored.metadata.key = s.key := by
  cases settles with
  | absent absent effect => exact key stored ((effect.find? _).symm.trans found)
  | steady there steady effect => exact key stored ((effect.find? _).symm.trans found)
  | @amended _ read changed there amended effect =>
    obtain ⟨_, o, _, kept, sameKey, _⟩ := rewritten_of_replace there (key read there) amended
    rw [effect.find?, kept] at found
    split at found
    · cases found
    · obtain rfl := Option.some.inj found
      exact sameKey.trans (key read there)

end MarkerStep

namespace Instance
variable {i j : Instance} {settings : Settings} {policy : RetryPolicy} {events : List Event}
  {outcome : Outcome} {c c' : Cluster} {slot : Slot} {o o' : Object}

/-- A pass whose steps keep something and end well: the marker comes behind what they have kept,
the status behind the marker, and there is no error to report. -/
theorem pass_effect {kept : List Step → Cluster → Prop} {sort : Event → Prop}
    (run : (i.pass settings policy).Runs events outcome) (obeys : c.Obeys events c')
    (active : i.metadata.isDeleting = true →
      i.metadata.hasMarker Conventions.cleanupMarker = true)
    (threads : Step.Threads kept sort events (i.ownSteps settings)) (start : kept [] c)
    (keyed : ∀ d, kept (i.ownSteps settings) d → ∀ stored,
      d.find? i.markerStep.slot = some stored → stored.metadata.key = i.markerStep.key) :
    ∃ own marker status c₁ c₂ result written, events = own ++ marker ++ status ∧
      (∀ e ∈ own, sort e) ∧ kept (i.ownSteps settings) c₁ ∧
      i.markerStep.Settles c₁ c₂ marker result ∧
      (i.statusWriter settings policy).Settles none c₂ c' status written ∧
      outcome = ⟨if result = .ok then .idle else .soon, none⟩ := by
  rcases pass_results run with
    ⟨deleting, bare, _⟩ | ⟨body, status, results, written, rfl, ran, writing, rfl⟩
  · rw [active deleting] at bare
    cases bare
  · have split : (i.steps settings).map Step.run =
        (i.ownSteps settings).map Step.run ++ [Step.marker i.markerStep].map Step.run := by
      simp [Instance.steps, ownSteps]
    rw [split] at ran
    have threads' : Step.Threads kept sort _ ([] ++ i.ownSteps settings) := threads
    obtain ⟨d, bodyObeys, statusObeys⟩ := obeys.split
    rcases Pass.ran_append ran with ⟨short, r, member, ends⟩ |
      ⟨own, marker, early, late, rfl, rfl, head, _, tail⟩
    · -- a step that does not proceed has not ended well
      have fine := (short.thread bodyObeys
        (fun e inBody => List.mem_append_left status inBody) threads' start).1
      rw [fine r member] at ends
      exact absurd rfl ends
    · obtain ⟨c₁, ownObeys, markerObeys⟩ := bodyObeys.split
      have inWhole : ∀ e ∈ own, e ∈ own ++ marker ++ status := by
        intro e member
        exact List.mem_append_left _ (List.mem_append_left _ member)
      obtain ⟨fine, sorted, keeps⟩ := head.thread ownObeys inWhole threads' start
      obtain ⟨result, rfl, marking⟩ : ∃ result, late = [result] ∧
          i.markerStep.run.Runs marker result := by
        cases tail with
        | proceeded stepRun proceeds after =>
          cases after
          rw [List.append_nil]
          exact ⟨_, rfl, stepRun⟩
        | ended stepRun ends => exact ⟨_, rfl, stepRun⟩
      have marked := MarkerStep.run_effect (keyed c₁ keeps) marking markerObeys
      rw [Pass.conclude_concat settings.requeueDelay fine result] at writing ⊢
      have clean : (Pass.conclude settings.requeueDelay none [result]).error = none ∧
          Pass.conclude settings.requeueDelay none [result] =
            ⟨if result = .ok then .idle else .soon, none⟩ := by
        cases marked with
        | absent absent effect => exact ⟨rfl, rfl⟩
        | steady found steady effect => exact ⟨rfl, rfl⟩
        | amended found amended effect => exact ⟨rfl, rfl⟩
      rw [clean.1] at writing
      have settled := StatusWriter.run_effect
        (fun stored found => marked.keyed (keyed c₁ keeps) found) writing statusObeys
      obtain ⟨ending, rfl⟩ := settled.exists_ok
      refine ⟨own, marker, status, c₁, d, result, _, rfl, sorted, keeps, marked, settled, ?_⟩
      rw [clean.2]
      rfl

end Instance

def Spec.ReadFrom (spec : Spec) (json : Json) : Prop :=
  match spec with
  | .agent spec => AgentSpec.decode json = .ok spec
  | .scanner spec => ScannerSpec.decode json = .ok spec

/-- The instance as it is stored: its metadata, and the specification that its data reads as. -/
structure Instance.CopyAt (i : Instance) (slot : Slot) (c : Cluster) (stored : Object) : Prop where
  found : c.find? slot = some stored
  place : i.markerStep.slot = slot
  metadata : i.metadata = stored.metadata
  spec : ∃ json, stored.data.get? "spec" = some json ∧ i.spec.ReadFrom json

/-- Passes one behind the other on a store that never fails, each over what is stored then, and how
they ended. -/
inductive Passes (settings : Settings) (policy : RetryPolicy) (slot : Slot) :
    Cluster → List Outcome → Cluster → Prop where
  | none (c : Cluster) : Passes settings policy slot c [] c
  | more {c c' c'' : Cluster} {i : Instance} {stored : Object} {events : List Event}
      {outcome : Outcome} {outcomes : List Outcome} (copy : i.CopyAt slot c stored)
      (run : (i.pass settings policy).Runs events outcome) (obeys : c.Obeys events c')
      (later : Passes settings policy slot c' outcomes c'') :
      Passes settings policy slot c (outcome :: outcomes) c''

/-- Two states of one instance: what identifies it and what it specifies. -/
structure Object.Persists (o o' : Object) : Prop where
  name : o'.metadata.name = o.metadata.name
  ns : o'.metadata.ns = o.metadata.ns
  uid : o'.metadata.uid = o.metadata.uid
  generation : o'.metadata.generation = o.metadata.generation
  owners : o'.metadata.ownerReferences = o.metadata.ownerReferences
  spec : o'.data.get? "spec" = o.data.get? "spec"

theorem Object.Persists.refl (o : Object) : o.Persists o := ⟨rfl, rfl, rfl, rfl, rfl, rfl⟩

theorem Object.Persists.trans {o o' o'' : Object} (first : o.Persists o')
    (second : o'.Persists o'') : o.Persists o'' where
  name := second.name.trans first.name
  ns := second.ns.trans first.ns
  uid := second.uid.trans first.uid
  generation := second.generation.trans first.generation
  owners := second.owners.trans first.owners
  spec := second.spec.trans first.spec

namespace Instance
variable {i j : Instance} {settings : Settings} {policy : RetryPolicy} {c c' : Cluster}
  {slot : Slot} {o o' : Object}

structure Kin (i j : Instance) : Prop where
  spec : j.spec = i.spec
  name : j.metadata.name = i.metadata.name
  ns : j.metadata.ns = i.metadata.ns
  uid : j.metadata.uid = i.metadata.uid

theorem Kin.symm (kin : i.Kin j) : j.Kin i :=
  ⟨kin.spec.symm, kin.name.symm, kin.ns.symm, kin.uid.symm⟩

theorem Kin.key_eq (kin : i.Kin j) : j.key = i.key := by
  show (⟨j.metadata.ns, j.metadata.name.getD ""⟩ : Key) = ⟨i.metadata.ns, i.metadata.name.getD ""⟩
  rw [kin.ns, kin.name]

theorem Kin.kind_eq (kin : i.Kin j) : j.kind = i.kind := by
  unfold kind
  rw [kin.spec]

theorem Kin.owner_eq (kin : i.Kin j) : Owner.ofInstance j = Owner.ofInstance i := by
  unfold Owner.ofInstance ident
  rw [kin.kind_eq, kin.key_eq, kin.name, kin.uid]

theorem Kin.blueprint_eq (kin : i.Kin j) (settings : Settings) :
    Blueprint.ofInstance j settings = Blueprint.ofInstance i settings := by
  unfold Blueprint.ofInstance
  rw [kin.spec]
  cases i.spec with
  | agent spec =>
    unfold Blueprint.ofAgent
    rw [kin.name, kin.ns]
  | scanner spec =>
    unfold Blueprint.ofScanner
    rw [kin.name]

theorem Kin.applySteps_eq (kin : i.Kin j) (settings : Settings) :
    j.applySteps settings = i.applySteps settings := by
  have blueprint := kin.blueprint_eq settings
  unfold applySteps applyStep credentialStep
  rw [kin.spec, kin.owner_eq, blueprint]
  cases spec : i.spec with
  | agent spec' =>
    have ofAgent : Blueprint.ofAgent j.metadata spec' settings =
        Blueprint.ofAgent i.metadata spec' settings := by
      simpa only [Blueprint.ofInstance, kin.spec, spec] using blueprint
    dsimp only
    rw [ofAgent]
  | scanner spec => rfl

theorem Kin.cleanupSteps_eq (kin : i.Kin j) (settings : Settings) :
    j.cleanupSteps settings = i.cleanupSteps settings := by
  unfold cleanupSteps
  rw [kin.spec, kin.blueprint_eq settings]

theorem Kin.markerStep_eq (kin : i.Kin j) : j.markerStep = i.markerStep := by
  unfold markerStep
  rw [kin.kind_eq, kin.key_eq]

theorem Kin.statusWriter_eq (kin : i.Kin j) (settings : Settings) (policy : RetryPolicy) :
    j.statusWriter settings policy = i.statusWriter settings policy := by
  unfold statusWriter workloadKey
  rw [kin.kind_eq, kin.key_eq, kin.blueprint_eq settings]

theorem CopyAt.kin (copy : i.CopyAt slot c o) (later : j.CopyAt slot c' o')
    (persists : o.Persists o') : i.Kin j := by
  obtain ⟨json, there, read⟩ := copy.spec
  obtain ⟨json', there', read'⟩ := later.spec
  rw [persists.spec, there] at there'
  obtain rfl := Option.some.inj there'
  have kinds : j.kind = i.kind := congrArg Slot.kind (later.place.trans copy.place.symm)
  refine ⟨?_, ?_, ?_, ?_⟩
  · unfold kind at kinds
    cases mine : i.spec with
    | agent spec =>
      cases yours : j.spec with
      | agent spec' =>
        rw [mine] at read
        rw [yours] at read'
        exact congrArg Spec.agent (Except.ok.inj (read'.symm.trans read))
      | scanner spec' =>
        rw [mine, yours] at kinds
        cases kinds
    | scanner spec =>
      cases yours : j.spec with
      | agent spec' =>
        rw [mine, yours] at kinds
        cases kinds
      | scanner spec' =>
        rw [mine] at read
        rw [yours] at read'
        exact congrArg Spec.scanner (Except.ok.inj (read'.symm.trans read))
  · rw [later.metadata, copy.metadata, persists.name]
  · rw [later.metadata, copy.metadata, persists.ns]
  · rw [later.metadata, copy.metadata, persists.uid]

theorem CopyAt.key_eq (copy : i.CopyAt slot c o) : o.metadata.key = i.markerStep.key := by
  show o.metadata.key = i.metadata.key
  rw [copy.metadata]

theorem CopyAt.exists_later (copy : i.CopyAt slot c o) (found : c'.find? slot = some o')
    (persists : o.Persists o') : ∃ j : Instance, j.CopyAt slot c' o' := by
  obtain ⟨json, there, read⟩ := copy.spec
  refine ⟨{ i with metadata := o'.metadata }, found, ?_, rfl, json, persists.spec.trans there, read⟩
  have key : o'.metadata.key = i.metadata.key := by
    rw [copy.metadata]
    unfold Metadata.key
    rw [persists.ns, persists.name]
  show (⟨i.kind, o'.metadata.key⟩ : Slot) = slot
  rw [key]
  exact copy.place

end Instance
end AgentOperator
