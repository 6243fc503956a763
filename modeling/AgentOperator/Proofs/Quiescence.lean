import AgentOperator.Proofs.LivePass

/-!
Passes come to rest. One pass over a live instance leaves nothing to do, so every later one finds
its steps done, its marker there and its status up to date: it asks for no other pass, changes
nothing but versions, and neither creates nor replaces anything nor requests a token, as long as a
credential that is wanted is good. If the credential is unwanted, no other object may bear the uid
of the instance: the removal of a secret that owns such an object takes along what was just brought
about.
-/
namespace AgentOperator

namespace Step
variable {step : Step} {b c : Cluster} {events own : List Event}

theorem Fresh.congr (fresh : step.Fresh c events) (same : b.SameObjects c)
    (within : ∀ e ∈ own, e ∈ events) : step.Fresh b own := by
  cases step with
  | credential s =>
    intro wanted secret found moment looked
    obtain ⟨kept, there, equal⟩ := same.symm.exists_found found
    have annotations : kept.metadata.annotations = secret.metadata.annotations := by
      have parts := congrArg Object.metadata equal
      have annotations := congrArg Metadata.annotations parts
      exact annotations
    have good := fresh wanted kept there moment (within _ looked)
    unfold CredentialStep.Good at good ⊢
    rw [annotations] at good
    exact good
  | _ => trivial

end Step

namespace StatusWriter
variable {w : StatusWriter} {b c : Cluster} {o o' : Object}

theorem observe_congr (same : b.SameObjects c) (slot : Slot) :
    w.observe (b.get slot) = w.observe (c.get slot) := by
  have there := same.find? slot
  unfold Cluster.get
  cases mine : b.find? slot with
  | none =>
    cases yours : c.find? slot with
    | none => rfl
    | some o =>
      rw [mine, yours] at there
      cases there
  | some o =>
    cases yours : c.find? slot with
    | none =>
      rw [mine, yours] at there
      cases there
    | some o' =>
      rw [mine, yours] at there
      dsimp only
      rw [← w.observe_unversioned o, ← w.observe_unversioned o', Option.some.inj there]

theorem derived_congr {passError : Option String} {moment : Moment} (same : b.SameObjects c)
    (equal : o.unversioned = o'.unversioned) (slot : Slot) :
    w.derived passError o (b.get slot) moment = w.derived passError o' (c.get slot) moment := by
  obtain ⟨_, generation, _⟩ := Object.metadata_of_unversioned equal
  have conditions : storedConditions o = storedConditions o' := by
    unfold storedConditions Object.status?
    rw [Object.data_of_unversioned equal]
  unfold derived
  rw [observe_congr same, generation, conditions]

end StatusWriter

theorem MarkerStep.Settles.still {s : MarkerStep} {c c' : Cluster} {events : List Event}
    {result : StepResult} (settles : s.Settles c c' events result)
    (done : (Step.marker s).Done c) :
    result = .ok ∧ (∀ e ∈ events, e.Quiet) ∧ c'.SameObjects c := by
  obtain ⟨stored, found, steady⟩ := done
  cases settles with
  | absent absent effect =>
    rw [absent] at found
    cases found
  | steady there steady effect =>
    refine ⟨rfl, ?_, effect.sameObjects⟩
    intro e member
    rw [List.mem_singleton.mp member]
    exact Event.quiet_of_read (Or.inr rfl)
  | amended there amended effect =>
    rw [there] at found
    obtain rfl := Option.some.inj found
    rw [steady] at amended
    cases amended

theorem StatusWriter.Settles.still {w : StatusWriter} {c c' : Cluster} {events : List Event}
    {result : Except StoreError StatusWrite} {stored : Object}
    (settles : w.Settles none c c' events result) (found : c.find? w.slot = some stored)
    (live : stored.metadata.isDeleting = false)
    (settled : ∀ moment,
      (w.derived none stored (c.get ⟨.daemonSet, w.workload⟩) moment).2 = false) :
    (∀ e ∈ events, e.Quiet) ∧ c'.SameObjects c := by
  cases settles with
  | skipped gone effect =>
    rw [gone stored found] at live
    cases live
  | unchanged there live same effect reads =>
    exact ⟨fun e member => Event.quiet_of_read (reads e member), effect.sameObjects⟩
  | @written o moment there _ changed effect =>
    rw [found] at there
    obtain rfl := Option.some.inj there
    rw [settled moment] at changed
    cases changed

namespace Instance
variable {i j : Instance} {settings : Settings} {policy : RetryPolicy} {b c c' : Cluster}
  {stored o : Object} {slot : Slot} {step : Step} {events : List Event} {outcome : Outcome}
  {outcomes : List Outcome}

theorem Converged.congr (converged : i.Converged settings policy c stored)
    (same : b.SameObjects c) :
    ∃ o, o.unversioned = stored.unversioned ∧ i.Converged settings policy b o := by
  obtain ⟨o, found, equal⟩ := same.exists_found converged.found
  obtain ⟨_, _, deletion, _⟩ := Object.metadata_of_unversioned equal
  have steady : (Step.marker i.markerStep).Done b :=
    Step.Done.congr (c := c) ⟨stored, converged.found, converged.steady⟩ same.revives
      fun slot _ => same.find? slot
  obtain ⟨o', found', steady⟩ := steady
  rw [found] at found'
  obtain rfl := Option.some.inj found'
  refine ⟨o, equal, found, ?_, ?_, steady, ?_⟩
  · have live := converged.live
    unfold Metadata.isDeleting at live ⊢
    rw [deletion]
    exact live
  · intro step member
    exact (converged.done step member).congr same.revives fun slot _ => same.find? slot
  · intro moment
    rw [StatusWriter.derived_congr same equal]
    exact converged.settled moment

theorem threads_of_done (identified : (Owner.ofInstance i).reference.isSome)
    (done : ∀ step ∈ i.applySteps settings, step.Done c)
    (fresh : ∀ step ∈ i.applySteps settings, step.Fresh c events) :
    Step.Threads (fun _ d => d.SameObjects c) Event.Quiet events (i.applySteps settings) := by
  intro before step after split d d' own result same run obeys within
  have inSteps : step ∈ i.applySteps settings := by simp [split]
  have doneHere : step.Done d :=
    (done step inSteps).congr same.revives fun slot _ => same.find? slot
  have ready : step.Ready d := by
    refine Step.ready_of_brings (brings_of_apply inSteps) identified ?_
    rintro s rfl wanted
    exact (doneHere.1 wanted).1
  obtain ⟨fine, quiet, still⟩ :=
    Step.still doneHere ((fresh step inSteps).congr same within) ready run obeys
  exact ⟨fine, quiet, still.trans same⟩

/-- A pass that finds nothing left to do asks for no other and changes nothing but versions. -/
theorem still_of_converged (copy : i.CopyAt slot c stored)
    (converged : i.Converged settings policy c stored)
    (identified : (Owner.ofInstance i).reference.isSome)
    (fresh : ∀ step ∈ i.applySteps settings, step.Fresh c events)
    (run : (i.pass settings policy).Runs events outcome) (obeys : c.Obeys events c') :
    outcome = ⟨.idle, none⟩ ∧ (∀ e ∈ events, e.Quiet) ∧ c'.SameObjects c := by
  have key := copy.key_eq
  obtain ⟨found, rfl, metadata, _⟩ := copy
  have live : i.metadata.isDeleting = false := metadata ▸ converged.live
  have threads : Step.Threads (fun _ d => d.SameObjects c) Event.Quiet events
      (i.ownSteps settings) := by
    rw [ownSteps_of_live live]
    exact threads_of_done identified converged.done fresh
  have keyed (d : Cluster) (same : d.SameObjects c) (o : Object)
      (there : d.find? i.markerStep.slot = some o) : o.metadata.key = i.markerStep.key := by
    obtain ⟨o', there', equal⟩ := same.symm.exists_found there
    rw [found] at there'
    obtain rfl := Option.some.inj there'
    rw [← Object.key_of_unversioned equal, key]
  obtain ⟨own, marker, status, c₁, c₂, result, written, rfl, quiet₁, same₁, marking, reporting,
      rfl⟩ := pass_effect run obeys (by simp [live]) threads (.refl c) keyed
  obtain ⟨o₁, _, converged₁⟩ := converged.congr same₁
  obtain ⟨rfl, quiet₂, same₂⟩ := marking.still ⟨o₁, converged₁.found, converged₁.steady⟩
  obtain ⟨o₂, _, converged₂⟩ := converged.congr (same₂.trans same₁)
  obtain ⟨quiet₃, same₃⟩ :=
    reporting.still converged₂.found converged₂.live converged₂.settled
  refine ⟨rfl, ?_, same₃.trans (same₂.trans same₁)⟩
  intro e member
  rcases List.mem_append.mp member with body | last
  · rcases List.mem_append.mp body with first | middle
    · exact quiet₁ e first
    · exact quiet₂ e middle
  · exact quiet₃ e last

def DropsCredential (i : Instance) : Prop :=
  ∃ spec, i.spec = .agent spec ∧ spec.credentials = false

theorem DropsCredential.kin (drops : i.DropsCredential) (kin : i.Kin j) : j.DropsCredential := by
  obtain ⟨spec, isAgent, unwanted⟩ := drops
  exact ⟨spec, kin.spec.trans isAgent, unwanted⟩

theorem wanted_of_credential {s : CredentialStep}
    (member : .credential s ∈ i.applySteps settings) :
    ∃ spec, i.spec = .agent spec ∧ s.enabled = spec.credentials := by
  unfold applySteps at member
  cases kind : i.spec with
  | agent spec =>
    simp only [kind, applyStep, List.mem_cons, List.not_mem_nil, or_false, reduceCtorEq,
      false_or] at member
    obtain rfl := Step.credential.inj member
    exact ⟨spec, rfl, rfl⟩
  | scanner spec => simp [kind, applyStep] at member

theorem drops_of_removes (member : step ∈ i.applySteps settings) (removes : step.Removes c) :
    i.DropsCredential := by
  have brings := brings_of_apply member
  cases step with
  | credential s =>
    obtain ⟨spec, isAgent, wanted⟩ := wanted_of_credential member
    exact ⟨spec, isAgent, wanted ▸ removes.1⟩
  | apply s => exact removes.elim
  | provision s => exact removes.elim
  | delete s => exact brings.elim
  | marker s => exact brings.elim

theorem fresh_of_drops (drops : i.DropsCredential) (c : Cluster) (events : List Event) :
    ∀ step ∈ i.applySteps settings, step.Fresh c events := by
  intro step member
  cases step with
  | credential s =>
    intro wanted
    obtain ⟨spec, isAgent, same⟩ := wanted_of_credential member
    obtain ⟨spec', isAgent', unwanted⟩ := drops
    rw [isAgent] at isAgent'
    cases isAgent'
    rw [same, unwanted] at wanted
    cases wanted
  | _ => trivial

theorem Converged.kin (converged : i.Converged settings policy c stored) (kin : i.Kin j) :
    j.Converged settings policy c stored where
  found := kin.markerStep_eq ▸ converged.found
  live := converged.live
  done := kin.applySteps_eq settings ▸ converged.done
  steady := kin.markerStep_eq ▸ converged.steady
  settled := by
    have workload : j.workloadKey settings = i.workloadKey settings := by
      unfold workloadKey
      rw [kin.blueprint_eq settings]
    rw [kin.statusWriter_eq, workload]
    exact converged.settled

structure AtRest (i : Instance) (settings : Settings) (policy : RetryPolicy) (first : Object)
    (c : Cluster) : Prop where
  ordered : c.inventory.Ordered
  converged : ∀ o, c.find? i.markerStep.slot = some o →
    first.Persists o ∧ i.Converged settings policy c o

variable {first : Object} {start : Cluster}

theorem AtRest.pass (rest : i.AtRest settings policy first c)
    (original : i.CopyAt slot start first) (identified : (Owner.ofInstance i).reference.isSome)
    (fits : FitsStored i.metadata.generation) (copy : j.CopyAt slot c stored)
    (run : (j.pass settings policy).Runs events outcome) (obeys : c.Obeys events c') :
    i.AtRest settings policy first c' ∧ (c'.find? slot).isSome := by
  have place := original.place
  obtain ⟨persists, converged⟩ := rest.converged stored (place ▸ copy.found)
  have kin : i.Kin j := original.kin copy persists
  have identified' : (Owner.ofInstance j).reference.isSome := kin.owner_eq ▸ identified
  have ordered' := obeys.serves.ordered rest.ordered
  by_cases drops : j.DropsCredential
  · obtain ⟨_, _, same⟩ := still_of_converged copy (converged.kin kin) identified'
      (fresh_of_drops drops c events) run obeys
    obtain ⟨o', equal, converged'⟩ := converged.congr same
    refine ⟨⟨ordered', ?_⟩, ?_⟩
    · intro o there
      rw [converged'.found] at there
      obtain rfl := Option.some.inj there
      exact ⟨persists.trans (Object.persists_of_unversioned equal), converged'⟩
    · rw [← place, converged'.found]
      rfl
  · have live : j.metadata.isDeleting = false := copy.metadata ▸ converged.live
    have fits' : FitsStored j.metadata.generation := by
      rw [copy.metadata, persists.generation, ← original.metadata]
      exact fits
    have never : ∀ step ∈ j.applySteps settings, ¬ step.Removes c :=
      fun step member removes => drops (drops_of_removes member removes)
    obtain ⟨_, there, after⟩ := converged_of_pass rest.ordered copy live identified' fits'
      (alone_of_stays never) run obeys
    refine ⟨⟨ordered', ?_⟩, there never⟩
    intro o found
    obtain ⟨persists', converged'⟩ := after o (place ▸ found)
    exact ⟨persists.trans persists', converged'.kin kin.symm⟩

theorem AtRest.passes (rest : i.AtRest settings policy first c)
    (original : i.CopyAt slot start first) (identified : (Owner.ofInstance i).reference.isSome)
    (fits : FitsStored i.metadata.generation)
    (passes : Passes settings policy slot c outcomes c') :
    i.AtRest settings policy first c' ∧ ((c.find? slot).isSome → (c'.find? slot).isSome) := by
  induction passes with
  | none c => exact ⟨rest, id⟩
  | more copy run obeys _ ih =>
    obtain ⟨rest', there⟩ := rest.pass original identified fits copy run obeys
    obtain ⟨rest'', later⟩ := ih rest'
    exact ⟨rest'', fun _ => later there⟩

theorem atRest_of_passes (ordered : c.inventory.Ordered) (copy : i.CopyAt slot c stored)
    (live : i.metadata.isDeleting = false) (identified : (Owner.ofInstance i).reference.isSome)
    (fits : FitsStored i.metadata.generation)
    (alone : (∃ step ∈ i.applySteps settings, step.Removes c) → i.Alone c)
    (passes : Passes settings policy slot c outcomes c') (once : outcomes ≠ []) :
    i.AtRest settings policy stored c' ∧
      ((∀ step ∈ i.applySteps settings, ¬ step.Removes c) → (c'.find? slot).isSome) := by
  cases passes with
  | none => exact absurd rfl once
  | @more _ d _ j o _ _ _ copy' run obeys later =>
    obtain rfl : stored = o := Option.some.inj (copy.found.symm.trans copy'.found)
    have kin := copy.kin copy' (.refl stored)
    have same : j.metadata = i.metadata := copy'.metadata.trans copy.metadata.symm
    have steps := kin.applySteps_eq settings
    obtain ⟨_, there, after⟩ := converged_of_pass ordered copy' (same ▸ live)
      (kin.owner_eq ▸ identified) (same ▸ fits)
      (fun removes => by
        unfold Alone
        rw [same, kin.markerStep_eq]
        exact alone (steps ▸ removes)) run obeys
    have rest : i.AtRest settings policy stored d := by
      refine ⟨obeys.serves.ordered ordered, ?_⟩
      intro o found
      obtain ⟨persists, converged⟩ := after o (copy.place ▸ found)
      exact ⟨persists, converged.kin kin.symm⟩
    obtain ⟨rest', kept⟩ := rest.passes copy identified fits later
    exact ⟨rest', fun never => kept (there (steps ▸ never))⟩

section SharedUid
variable {s : CredentialStep} {a : ApplyStep} {secret namesake : Object} {place : Slot}

/-- An agent that nobody owns is to have no credential. In the place of its secret there is
something that can be removed and owns something else that bears the uid of the agent. -/
structure SharesUid (i : Instance) (settings : Settings) (c : Cluster) (stored : Object)
    (s : CredentialStep) (secret : Object) (place : Slot) (namesake : Object) : Prop where
  unowned : stored.Unowned
  credential : .credential s ∈ i.applySteps settings
  unwanted : s.enabled = false
  there : c.find? s.secretSlot = some secret
  free : secret.metadata.finalizers.getD [] = []
  beside : c.find? place = some namesake
  apart : ∀ step ∈ i.applySteps settings, place ≠ step.target
  owned : ∃ uid, secret.metadata.uid = some uid ∧ namesake.RefersTo uid
  shared : namesake.metadata.uid = i.metadata.uid

theorem Brought.swept {before after : List Step} {d d' : Cluster} {now : Timestamp}
    (brought : i.Brought c stored before d) (found : c.find? i.markerStep.slot = some stored)
    (identified : (Owner.ofInstance i).reference.isSome)
    (shares : i.SharesUid settings c stored s secret place namesake)
    (split : i.applySteps settings = before ++ .credential s :: after)
    (owned : .apply a ∈ i.applySteps settings)
    (scope : a.owner.sharesScope a.resource.object.metadata.ns = true)
    (effect : d'.Alike (d.delete now s.secretSlot).2) :
    d'.find? i.markerStep.slot = some stored ∧ d'.find? s.secretSlot = none ∧
      d'.find? a.resource.slot = none := by
  have home := brought.home found split
  have there : d.find? s.secretSlot = some secret := (brought.untouched split).trans shares.there
  have beside : d.find? place = some namesake := by
    rw [brought.elsewhere (fun step member => (apart_of_split split member).2.1 c), shares.beside]
    intro step member
    exact shares.apart step (split ▸ List.mem_append_left _ member)
  obtain ⟨uid, secretUid, inherits⟩ := shares.owned
  have swept := Cluster.find?_remove_of_owned brought.ordered there secretUid beside inherits
  rw [Cluster.delete_free now there shares.free] at effect
  rw [effect.find?, effect.find?, effect.find?]
  have kept := Cluster.find?_remove_of_ne (slot_ne_target shares.credential)
    (.of_found home shares.unowned)
  refine ⟨kept.trans home, Cluster.find?_remove_self d _, ?_⟩
  have done : (Step.apply a).Done d :=
    brought.done (by rw [home]; rfl) _ (before_credential split owned (by simp))
  obtain ⟨o, present⟩ : ∃ o, d.find? a.resource.slot = some o := by
    obtain ⟨r, o, desired, present, _⟩ := done
    exact ⟨o, ApplyStep.slot_of_desired desired ▸ present⟩
  obtain ⟨reference, isReference⟩ := Option.isSome_iff_exists.mp identified
  have brings := brings_of_apply owned
  have refers : o.RefersTo reference.uid := by
    refine ⟨reference, ?_, rfl⟩
    rw [owners_of_done brings.2.1.1 done present, if_pos scope, brings.1, isReference]
    exact List.mem_singleton_self reference
  have bears := shares.shared.trans (Owner.uid_of_reference isReference)
  exact Cluster.find?_remove_of_heir brought.ordered there beside
    (shares.apart _ shares.credential) swept bears present refers

/-- How far the pass has come: until the secret is dropped everything is brought about, and then
the secret and what refers to the instance are gone. -/
def Sweeping (i : Instance) (c : Cluster) (stored : Object) (s : CredentialStep) (a : ApplyStep)
    (before : List Step) (d : Cluster) : Prop :=
  d.find? i.markerStep.slot = some stored ∧
    (.credential s ∉ before → i.Brought c stored before d) ∧
    (.credential s ∈ before → d.find? s.secretSlot = none ∧ d.find? a.resource.slot = none)

theorem Sweeping.threads (found : c.find? i.markerStep.slot = some stored)
    (identified : (Owner.ofInstance i).reference.isSome)
    (shares : i.SharesUid settings c stored s secret place namesake)
    (owned : .apply a ∈ i.applySteps settings)
    (scope : a.owner.sharesScope a.resource.object.metadata.ns = true) :
    Step.Threads (i.Sweeping c stored s a) (fun _ => True) events (i.applySteps settings) := by
  intro before step after split d d' own result sweeping run obeys _
  obtain ⟨home, brought, _⟩ := sweeping
  have notBefore := credential_notMem_before split s
  have brought := brought notBefore
  have inSteps : step ∈ i.applySteps settings := by simp [split]
  obtain ⟨fine, makes⟩ := brought.run_makes found identified split run obeys
  refine ⟨fine, fun _ _ => trivial, ?_⟩
  by_cases last : step = .credential s
  · subst last
    obtain ⟨now, effect⟩ : ∃ now, d'.Alike (d.delete now s.secretSlot).2 := by
      have unwanted := shares.unwanted
      cases makes with
      | drops _ now effect => exact ⟨now, effect⟩
      | keeps wanted => simp [unwanted] at wanted
      | issues wanted => simp [unwanted] at wanted
    obtain ⟨home', swept⟩ := brought.swept found identified shares split owned scope effect
    exact ⟨home', by simp, fun _ => swept⟩
  · have never : ¬ step.Removes d := by
      intro removes
      obtain ⟨s', _, rfl, _⟩ := makes.exists_drop (brings_of_apply inSteps) removes
      exact notBefore (before_credential split shares.credential (Ne.symm last))
    have home' := (makes.find?_of_ne never (slot_ne_target inSteps)).trans home
    refine ⟨home', fun _ => brought.extend_of_not_removes found split makes never, ?_⟩
    intro member
    rcases List.mem_append.mp member with early | here
    · exact absurd early notBefore
    · exact absurd (List.mem_singleton.mp here).symm last

theorem swept_of_sharesUid (ordered : c.inventory.Ordered) (copy : i.CopyAt slot c stored)
    (live : i.metadata.isDeleting = false) (identified : (Owner.ofInstance i).reference.isSome)
    (fits : FitsStored i.metadata.generation)
    (shares : i.SharesUid settings c stored s secret place namesake)
    (owned : .apply a ∈ i.applySteps settings)
    (scope : a.owner.sharesScope a.resource.object.metadata.ns = true)
    (run : (i.pass settings policy).Runs events outcome) (obeys : c.Obeys events c') :
    c'.find? s.secretSlot = none ∧ c'.find? a.resource.slot = none ∧
      ∃ (j : Instance) (o : Object), j.CopyAt slot c' o ∧ stored.Persists o ∧
        j.metadata.isDeleting = false := by
  have found : c.find? i.markerStep.slot = some stored := copy.place ▸ copy.found
  have start : i.Sweeping c stored s a [] c := ⟨found, fun _ => .nil ordered found, by simp⟩
  obtain ⟨_, c₁, c₂, ⟨home, _, swept⟩, marks, reports⟩ :=
    pass_effect_of_live copy live fits (Sweeping.threads found identified shares owned scope) start
      (fun _ _ sweeping o there => Option.some.inj (there.symm.trans sweeping.1)) run obeys
  obtain ⟨noSecret, noObject⟩ := swept shares.credential
  have elsewhere (other : Slot) (different : other ≠ i.markerStep.slot) :
      c'.find? other = c₁.find? other :=
    (reports.others other different).trans (marks.others other different)
  refine ⟨(elsewhere _ (slot_ne_target shares.credential).symm).trans noSecret,
    (elsewhere _ (slot_ne_target owned).symm).trans noObject, ?_⟩
  obtain ⟨o, there⟩ : ∃ o, c'.find? i.markerStep.slot = some o := by
    rw [← Option.isSome_iff_exists, reports.isSome_eq, marks.isSome_eq, home]
    rfl
  obtain ⟨o₂, there₂, report⟩ := reports.exists_before there
  obtain ⟨o₁, there₁, mark⟩ := marks.exists_before there₂
  obtain rfl : stored = o₁ := Option.some.inj (home.symm.trans there₁)
  have persists := mark.persists.trans report.persists
  obtain ⟨j, copy'⟩ := copy.exists_later (copy.place ▸ there) persists
  refine ⟨j, o, copy', persists, ?_⟩
  rw [copy'.metadata]
  unfold Metadata.isDeleting
  rw [report.deletionTimestamp]
  exact mark.live

theorem not_removes_of_absent (credential : .credential s ∈ i.applySteps settings)
    (absent : c.find? s.secretSlot = none) (member : step ∈ i.applySteps settings) :
    ¬ step.Removes c := by
  have brings := brings_of_apply member
  cases step with
  | credential s' =>
    obtain rfl := credential_unique credential member
    exact Step.not_removes_of_absent absent
  | apply s => exact id
  | provision s => exact id
  | delete s => exact brings.elim
  | marker s => exact brings.elim

theorem brought_again_of_sharesUid (ordered : c.inventory.Ordered) (copy : i.CopyAt slot c stored)
    (live : i.metadata.isDeleting = false) (identified : (Owner.ofInstance i).reference.isSome)
    (fits : FitsStored i.metadata.generation)
    (shares : i.SharesUid settings c stored s secret place namesake)
    (owned : .apply a ∈ i.applySteps settings)
    (scope : a.owner.sharesScope a.resource.object.metadata.ns = true)
    (run : (i.pass settings policy).Runs events outcome) (obeys : c.Obeys events c') :
    c'.find? a.resource.slot = none ∧
      ∃ (j : Instance) (o : Object), j.CopyAt slot c' o ∧ i.Kin j ∧
        ∀ events outcome c'', (j.pass settings policy).Runs events outcome → c'.Obeys events c'' →
          (c''.find? a.resource.slot).isSome := by
  obtain ⟨noSecret, noObject, j, o, copy', persists, live'⟩ :=
    swept_of_sharesUid ordered copy live identified fits shares owned scope run obeys
  have kin := copy.kin copy' persists
  have steps := kin.applySteps_eq settings
  have fits' : FitsStored j.metadata.generation := by
    rw [copy'.metadata, persists.generation, ← copy.metadata]
    exact fits
  have never : ∀ step ∈ j.applySteps settings, ¬ step.Removes c' :=
    fun step member => not_removes_of_absent shares.credential noSecret (steps ▸ member)
  refine ⟨noObject, j, o, copy', kin, ?_⟩
  intro events outcome c'' run' obeys'
  obtain ⟨_, kept, after⟩ := converged_of_pass (obeys.serves.ordered ordered) copy' live'
    (kin.owner_eq ▸ identified) fits'
    (alone_of_stays never) run' obeys'
  obtain ⟨o', found⟩ := Option.isSome_iff_exists.mp (kept never)
  obtain ⟨r, _, desired, there, _⟩ := (after o' found).2.done _ (steps ▸ owned)
  rw [← ApplyStep.slot_of_desired desired, there]
  rfl

end SharedUid

/-- Once there was a pass over a live instance, every other over what is stored then asks for no
further one, meets no error, creates and replaces nothing, requests no token and changes nothing
but versions, while a credential that is wanted is good. And there can always be another, if the
first did not have to remove a secret. -/
theorem quiet_after_pass (ordered : c.inventory.Ordered) (copy : i.CopyAt slot c stored)
    (live : i.metadata.isDeleting = false) (named : i.metadata.name.isSome)
    (identified : i.metadata.uid.isSome) (fits : FitsStored i.metadata.generation)
    (alone : (∃ step ∈ i.applySteps settings, step.Removes c) → i.Alone c)
    (passes : Passes settings policy slot c outcomes c') (once : outcomes ≠ []) :
    (∀ (j : Instance) (o : Object) (events : List Event) (outcome : Outcome) (c'' : Cluster),
      j.CopyAt slot c' o → (j.pass settings policy).Runs events outcome → c'.Obeys events c'' →
      (∀ step ∈ j.applySteps settings, step.Fresh c' events) →
        outcome = ⟨.idle, none⟩ ∧ (∀ e ∈ events, e.Quiet) ∧ c''.SameObjects c') ∧
    ((∀ step ∈ i.applySteps settings, ¬ step.Removes c) →
      ∃ (j : Instance) (o : Object), j.CopyAt slot c' o ∧ i.Kin j) := by
  have reference := Owner.reference_isSome named identified
  obtain ⟨rest, there⟩ := atRest_of_passes ordered copy live reference fits alone passes once
  have known (o : Object) (found : c'.find? slot = some o) :=
    rest.converged o (copy.place ▸ found)
  refine ⟨?_, ?_⟩
  · intro j o events outcome c'' copy' run obeys fresh
    obtain ⟨persists, converged⟩ := known o copy'.found
    have kin : i.Kin j := copy.kin copy' persists
    exact still_of_converged copy' (converged.kin kin) (kin.owner_eq ▸ reference) fresh run obeys
  · intro never
    obtain ⟨o, found⟩ := Option.isSome_iff_exists.mp (there never)
    have persists := (known o found).1
    obtain ⟨j, copy'⟩ := copy.exists_later found persists
    exact ⟨j, o, copy', copy.kin copy' persists⟩

/-- A store where an apply withdraws a requested deletion. -/
def memory : Cluster := { revives := true }

def written (ns : String) (spec : Json) (owners : Option (List OwnerReference)) : Resource :=
  { kind := .nodeAgent
    object :=
      { metadata := { name := some "telemetry", ns := some ns, ownerReferences := owners }
        data := [("spec", spec)] } }

def unseen : Object × Cluster :=
  memory.insert (written "observability"
    (.obj [("credentials", .obj [("enabled", .bool true)])]) none)

def unseenAgent : Instance :=
  { metadata := unseen.1.metadata, spec := .agent { credentials := true } }

theorem unseenAgent_copy :
    unseenAgent.CopyAt unseenAgent.markerStep.slot unseen.2 unseen.1 where
  found := Cluster.find?_write_self _ _ _
  place := rfl
  metadata := rfl
  spec := ⟨_, rfl, rfl⟩

theorem ordered_unseen : unseen.2.inventory.Ordered :=
  Cluster.ordered_write (c := memory) List.Pairwise.nil _ _

theorem unseenAgent_fits : FitsStored unseenAgent.metadata.generation := by
  rintro g ⟨⟩
  decide

theorem unseenAgent_keeps (c : Cluster) :
    ∀ step ∈ unseenAgent.applySteps {}, ¬ step.Removes c := by
  intro step member removes
  obtain ⟨spec, isAgent, unwanted⟩ := drops_of_removes member removes
  cases isAgent
  cases unwanted

def unseenWorld : World := { cluster := unseen.2, start := ⟨1792152000, 0⟩ }

def seen : Cluster := (unseenWorld.run (unseenAgent.pass {} {})).2.cluster

theorem seen_credential :
    (seen.find? (unseenAgent.credentialStep { credentials := true } {}).secretSlot).map
      (·.metadata.annotations) = some (some
        [("agents.nodeagent.dev/token-expiration", "2026-10-16T13:00:00+00:00")]) := by
  decide +kernel

theorem seen_fresh {later : Moment} (soon : later.wall = ⟨1792153800, 0⟩)
    (clock : ∀ looked, .clock looked ∈ events → looked = later) :
    ∀ step ∈ unseenAgent.applySteps {}, step.Fresh seen events := by
  intro step member
  cases step with
  | credential s =>
    have own : .credential (unseenAgent.credentialStep { credentials := true } {}) ∈
        unseenAgent.applySteps {} := by simp [applySteps, unseenAgent]
    obtain rfl := credential_unique own member
    intro _ secret found moment looked
    have annotations := seen_credential
    rw [found] at annotations
    have recorded : Expiry.recorded secret.metadata.annotations = .ok ⟨1792155600, 0⟩ := by
      have text : secret.metadata.annotations = _ := Option.some.inj annotations
      rw [text]
      decide +kernel
    rw [clock moment looked, soon]
    exact ⟨_, recorded, by decide⟩
  | _ => trivial

theorem unseenAgent_rests_after_pass :
    ∃ outcomes, outcomes ≠ [] ∧
      Passes {} {} unseenAgent.markerStep.slot unseen.2 outcomes seen ∧
      ∃ (j : Instance) (o : Object) (events : List Event) (outcome : Outcome) (c : Cluster),
        j.CopyAt unseenAgent.markerStep.slot seen o ∧ (j.pass {} {}).Runs events outcome ∧
        seen.Obeys events c ∧ (∀ step ∈ j.applySteps {}, step.Fresh seen events) ∧
        (∃ s secret, .credential s ∈ j.applySteps {} ∧ s.enabled = true ∧
          seen.find? s.secretSlot = some secret) ∧
        outcome = ⟨.idle, none⟩ ∧ (∀ e ∈ events, e.Quiet) ∧ c.SameObjects seen := by
  have never := unseenAgent_keeps unseen.2
  have passes : Passes {} {} unseenAgent.markerStep.slot unseen.2 [_] seen :=
    .more unseenAgent_copy (unseenWorld.runs_events _) (unseenWorld.obeys_events _ rfl) (.none seen)
  obtain ⟨quiet, more⟩ := quiet_after_pass ordered_unseen unseenAgent_copy rfl rfl rfl
    unseenAgent_fits (alone_of_stays never) passes (by simp)
  obtain ⟨j, o, copy, kin⟩ := more never
  have steps := kin.applySteps_eq {}
  obtain ⟨events, outcome, c, run, obeys, clock⟩ :=
    Cluster.Obeys.exists_run_at ⟨⟨1792153800, 0⟩, .ofSecs 1800⟩ seen (j.pass {} {})
  have fresh : ∀ step ∈ j.applySteps {}, step.Fresh seen events := steps ▸ seen_fresh rfl clock
  obtain ⟨secret, found, _⟩ := Option.map_eq_some_iff.mp seen_credential
  refine ⟨[_], by simp, passes, j, o, events, outcome, c, copy, run, obeys, fresh,
    ⟨_, secret, ?_, rfl, found⟩, quiet j o events outcome c copy run obeys fresh⟩
  rw [steps]
  simp [applySteps, unseenAgent]

def bare : Object × Cluster := memory.insert (written "observability" (.obj []) none)

def bareAgent : Instance := { metadata := bare.1.metadata, spec := .agent {} }

def squatter : Object × Cluster :=
  bare.2.insert
    { kind := .secret
      object := { metadata := { name := some "telemetry-token", ns := some "observability" } } }

/-- An agent of the same name in another namespace, owned by that secret. As uids are made of kind
and name, it bears that of the first agent. -/
def namesake : Object × Cluster :=
  squatter.2.insert (written "staging" (.obj []) (some [
    { apiVersion := "v1", kind := "Secret", name := "telemetry-token"
      uid := Cluster.freshUid ⟨.secret, .namespaced "observability" "telemetry-token"⟩ }]))

theorem namesake_shares : bareAgent.SharesUid {} namesake.2 bare.1
    (bareAgent.credentialStep {} {}) squatter.1 ⟨.nodeAgent, .namespaced "staging" "telemetry"⟩
    namesake.1 where
  unowned := rfl
  credential := by simp [applySteps, bareAgent]
  unwanted := rfl
  there := (Cluster.find?_write_of_ne (by decide) _).trans (Cluster.find?_write_self _ _ _)
  free := rfl
  beside := Cluster.find?_write_self _ _ _
  apart := by
    intro step member same
    exact (kind_of_managed (target_mem_managed member)).1 (congrArg Slot.kind same).symm
  owned := ⟨_, rfl, _, List.mem_singleton_self _, rfl⟩
  shared := rfl

theorem namesake_collects_workload :
    namesake.2.inventory.Ordered ∧
    bareAgent.CopyAt bareAgent.markerStep.slot namesake.2 bare.1 ∧
    bareAgent.metadata.isDeleting = false ∧ bareAgent.metadata.name.isSome ∧
    bareAgent.metadata.uid.isSome ∧ FitsStored bareAgent.metadata.generation ∧
    ∃ events outcome c₁, (bareAgent.pass {} {}).Runs events outcome ∧
      namesake.2.Obeys events c₁ ∧
      ∃ (j : Instance) (o : Object), j.CopyAt bareAgent.markerStep.slot c₁ o ∧
        ∃ events outcome c₂, (j.pass {} {}).Runs events outcome ∧ c₁.Obeys events c₂ ∧
          (∀ step ∈ j.applySteps {}, step.Fresh c₁ events) ∧
          c₁.find? ⟨.daemonSet, bareAgent.workloadKey {}⟩ = none ∧
          (c₂.find? ⟨.daemonSet, bareAgent.workloadKey {}⟩).isSome := by
  have ordered : namesake.2.inventory.Ordered :=
    Cluster.ordered_write (Cluster.ordered_write (Cluster.ordered_write (c := memory)
      List.Pairwise.nil _ _) _ _) _ _
  have copy : bareAgent.CopyAt bareAgent.markerStep.slot namesake.2 bare.1 :=
    { found := (Cluster.find?_write_of_ne (by decide) _).trans
        ((Cluster.find?_write_of_ne (by decide) _).trans (Cluster.find?_write_self _ _ _))
      place := rfl
      metadata := rfl
      spec := ⟨_, rfl, rfl⟩ }
  have fits : FitsStored bareAgent.metadata.generation := by
    rintro g ⟨⟩
    decide
  let workload : ApplyStep :=
    { owner := .ofInstance bareAgent
      resource := (Manifest.workload (.ofInstance bareAgent {}) .full).resource
      onError := .stop }
  have owned : .apply workload ∈ bareAgent.applySteps {} := by
    simp [applySteps, applyStep, bareAgent, workload]
  obtain ⟨events, outcome, c₁, run, obeys⟩ :=
    Cluster.Obeys.exists_run namesake.2 (bareAgent.pass {} {})
  obtain ⟨gone, j, o, copy', kin, again⟩ := brought_again_of_sharesUid ordered copy rfl rfl fits
    namesake_shares owned rfl run obeys
  have drops : bareAgent.DropsCredential := ⟨{}, rfl, rfl⟩
  obtain ⟨events', outcome', c₂, run', obeys'⟩ := Cluster.Obeys.exists_run c₁ (j.pass {} {})
  exact ⟨ordered, copy, rfl, rfl, rfl, fits, events, outcome, c₁, run, obeys, j, o, copy', events',
    outcome', c₂, run', obeys', fresh_of_drops (drops.kin kin) c₁ events', gone,
    again events' outcome' c₂ run' obeys'⟩

end Instance
end AgentOperator
