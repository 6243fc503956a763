import AgentOperator.Proofs.Trace
import AgentOperator.Step

/-!
The runs of the steps of a pass: which calls each kind of step can make, and how it ends after the
answers that it got.
-/
namespace AgentOperator

theorem Resource.slot_withOwner (r : Resource) (reference : OwnerReference) :
    (r.withOwner reference).slot = r.slot := rfl

theorem Owner.sharesScope_iff {owner : Owner} {ns : Option String} :
    owner.sharesScope ns = true ↔ owner.ident.key.ns = none ∨ ns = owner.ident.key.ns := by
  unfold sharesScope
  cases owner.ident.key.ns <;> simp

namespace ApplyStep
variable {s : ApplyStep} {r : Resource}

theorem cases_of_desired (desired : s.desired? = some r) :
    (s.owner.sharesScope s.resource.object.metadata.ns = false ∧ r = s.resource) ∨
      ∃ reference, s.owner.reference = some reference ∧
        s.owner.sharesScope s.resource.object.metadata.ns = true ∧
        r = s.resource.withOwner reference := by
  unfold desired? at desired
  split at desired
  · next shares =>
    obtain ⟨reference, owner, rfl⟩ := Option.map_eq_some_iff.mp desired
    exact Or.inr ⟨reference, owner, shares, rfl⟩
  · next foreign => exact Or.inl ⟨by simpa using foreign, (Option.some.inj desired).symm⟩

theorem desired_of_shares {reference : OwnerReference}
    (shares : s.owner.sharesScope s.resource.object.metadata.ns = true)
    (owner : s.owner.reference = some reference) :
    s.desired? = some (s.resource.withOwner reference) := by
  rw [desired?, if_pos shares, owner]
  rfl

theorem desired?_eq_none_iff : s.desired? = none ↔
    s.owner.sharesScope s.resource.object.metadata.ns = true ∧ s.owner.reference = none := by
  unfold desired?
  split
  · next shares => simp [shares]
  · next foreign => simp [foreign]

theorem sent_as_given {α : Type} (part : Resource → α)
    (spared : ∀ r reference, part (Resource.withOwner r reference) = part r)
    (desired : s.desired? = some r) : part r = part s.resource := by
  rcases cases_of_desired desired with ⟨_, rfl⟩ | ⟨reference, _, _, rfl⟩
  · rfl
  · exact spared s.resource reference

theorem slot_of_desired (desired : s.desired? = some r) : r.slot = s.resource.slot :=
  sent_as_given Resource.slot Resource.slot_withOwner desired

end ApplyStep

theorem ApplyStep.runs_iff {s : ApplyStep} {events : List Event} {result : StepResult} :
    s.run.Runs events result ↔
      (s.desired? = none ∧ events = [] ∧
        result = .fail .stop (.ownerReference s.owner.ident s.resource.ident)) ∨
      ∃ r answer, s.desired? = some r ∧
        events = [.call (.apply r Conventions.fieldManager true) answer] ∧
        result = s.conclude answer := by
  unfold run
  cases desired : s.desired? with
  | none => simp
  | some r =>
    simp only [Program.apply_bind, Program.runs_call, Program.runs_pure]
    constructor
    · rintro ⟨answer, rest, rfl, rfl, rfl⟩
      exact Or.inr ⟨r, answer, rfl, rfl, rfl⟩
    · rintro (⟨no, _⟩ | ⟨r', answer, same, rfl, rfl⟩)
      · cases no
      · obtain rfl := Option.some.inj same
        exact ⟨answer, [], rfl, rfl, rfl⟩

theorem ApplyStep.isOk_conclude (s : ApplyStep) (answer : Except StoreError Object) :
    (s.conclude answer).isOk = answer.isOk := by
  rcases answer with error | object
  · cases error <;> simp [conclude, StepResult.isOk, StepResult.requeue, StepResult.fail,
      Except.isOk, Except.toBool]
  · rfl

theorem DeleteStep.runs_iff {s : DeleteStep} {events : List Event} {result : StepResult} :
    s.run.Runs events result ↔
      ∃ answer, events = [.call (.delete s.resource.slot) answer] ∧
        result = s.conclude answer := by
  unfold run
  simp only [Program.delete_bind, Program.runs_call, Program.runs_pure]
  constructor
  · rintro ⟨answer, rest, rfl, rfl, rfl⟩
    exact ⟨answer, rfl, rfl⟩
  · rintro ⟨answer, rfl, rfl⟩
    exact ⟨answer, [], rfl, rfl, rfl⟩

/-- A store's answer to a deletion that leaves nothing to be deleted. -/
def Deleted (answer : Except StoreError Unit) : Prop :=
  answer = .ok () ∨ ∃ text, answer = .error (.notFound text)

theorem DeleteStep.conclude_of_deleted {answer : Except StoreError Unit} (s : DeleteStep)
    (deleted : Deleted answer) : s.conclude answer = .ok := by
  rcases deleted with same | ⟨text, same⟩
  · rw [same]
    rfl
  · rw [same]
    rfl

theorem DeleteStep.deleted_of_proceed {s : DeleteStep} {answer : Except StoreError Unit}
    (essential : s.onError ≠ .proceed) (proceeds : (s.conclude answer).action = .proceed) :
    Deleted answer := by
  unfold conclude at proceeds
  split at proceeds
  · exact Or.inl rfl
  · exact Or.inr ⟨_, rfl⟩
  · exact absurd proceeds essential

theorem ProvisionStep.runs_cases {s : ProvisionStep} {events : List Event} {result : StepResult}
    (run : s.run.Runs events result) :
    (∃ answer, events = [.call (.get s.resource.slot) answer] ∧
        ∀ text, answer ≠ .error (.notFound text)) ∨
      ∃ text answer, events = [.call (.get s.resource.slot) (.error (.notFound text)),
          .call (.create s.resource) answer] ∧ result = s.conclude answer := by
  unfold ProvisionStep.run at run
  simp only [Program.get_bind, Program.runs_call] at run
  obtain ⟨answer, rest, rfl, run⟩ := run
  cases answer with
  | ok object =>
    obtain ⟨rfl, _⟩ := Program.runs_pure.mp run
    refine Or.inl ⟨_, rfl, ?_⟩
    intro text same
    cases same
  | error error =>
    cases error with
    | notFound text =>
      simp only [Program.create_bind, Program.runs_call, Program.runs_pure] at run
      obtain ⟨created, rest, rfl, rfl, rfl⟩ := run
      exact Or.inr ⟨text, created, rfl, rfl⟩
    | _ =>
      obtain ⟨rfl, _⟩ := Program.runs_pure.mp run
      refine Or.inl ⟨_, rfl, ?_⟩
      intro text same
      cases same

namespace Metadata
variable {m : Metadata} {marker : String}

theorem hasMarker_iff : m.hasMarker marker = true ↔ marker ∈ m.finalizers.getD [] := by
  simp [Metadata.hasMarker]

theorem isDeleting_iff : m.isDeleting = true ↔ m.deletionTimestamp ≠ none :=
  Option.isSome_iff_ne_none

end Metadata

namespace MarkerTransition
variable {m : Metadata} {marker : String}

theorem of_eq_add_iff : MarkerTransition.of m marker = .add ↔
    m.deletionTimestamp = none ∧ marker ∉ m.finalizers.getD [] := by
  have live : m.isDeleting = false ↔ m.deletionTimestamp = none := by simp [Metadata.isDeleting]
  rw [← live, ← Metadata.hasMarker_iff, MarkerTransition.of]
  cases m.hasMarker marker <;> cases m.isDeleting <;> simp [decide]

theorem of_eq_remove_iff : MarkerTransition.of m marker = .remove ↔
    m.deletionTimestamp ≠ none ∧ marker ∈ m.finalizers.getD [] := by
  rw [← Metadata.hasMarker_iff, ← Metadata.isDeleting_iff, MarkerTransition.of]
  cases m.hasMarker marker <;> cases m.isDeleting <;> simp [decide]

end MarkerTransition

def Object.withFinalizers (object : Object) (finalizers : List String) : Object :=
  object.withMetadata fun m => { m with finalizers := some finalizers }

namespace MarkerStep
variable {s : MarkerStep} {current changed : Object} {events : List Event} {result : StepResult}

/-- The finalizers that `s` writes in the place of those of `m`: a live object without the marker
gets it behind the others, one that is being deleted loses it wherever it stands. -/
inductive Rewrites (s : MarkerStep) (m : Metadata) : List String → Prop where
  | added (live : m.deletionTimestamp = none) (bare : s.marker ∉ m.finalizers.getD []) :
      Rewrites s m (m.finalizers.getD [] ++ [s.marker])
  | removed (deleting : m.deletionTimestamp ≠ none) (marked : s.marker ∈ m.finalizers.getD []) :
      Rewrites s m ((m.finalizers.getD []).filter (· ≠ s.marker))

theorem rewrites_of_amended (amended : s.amended? current = some changed) :
    ∃ finalizers, s.Rewrites current.metadata finalizers ∧
      changed = current.withFinalizers finalizers := by
  unfold amended? at amended
  split at amended
  · cases amended
  · next add =>
    obtain ⟨live, bare⟩ := MarkerTransition.of_eq_add_iff.mp add
    exact ⟨_, .added live bare, (Option.some.inj amended).symm⟩
  · next remove =>
    obtain ⟨deleting, marked⟩ := MarkerTransition.of_eq_remove_iff.mp remove
    have filtered : current.metadata.finalizers.map (·.filter (· ≠ s.marker)) =
        some ((current.metadata.finalizers.getD []).filter (· ≠ s.marker)) := by
      cases listed : current.metadata.finalizers with
      | none => simp [listed] at marked
      | some list => rfl
    refine ⟨_, .removed deleting marked, (Option.some.inj amended).symm.trans ?_⟩
    simp only [Object.withFinalizers, Object.withMetadata, Metadata.removeMarker, filtered]

theorem not_hasMarker_of_amended (amended : s.amended? current = some changed)
    (bare : changed.metadata.hasMarker s.marker = false) :
    current.metadata.isDeleting = true ∧ current.metadata.hasMarker s.marker = true := by
  obtain ⟨finalizers, rewrites, rfl⟩ := rewrites_of_amended amended
  cases rewrites with
  | added live unmarked =>
    simp [Metadata.hasMarker, Object.withFinalizers, Object.withMetadata] at bare
  | removed deleting marked =>
    exact ⟨Metadata.isDeleting_iff.mpr deleting, Metadata.hasMarker_iff.mpr marked⟩

theorem runs_cases (run : s.run.Runs events result) :
    (∃ error, events = [.call (.get s.slot) (.error error)]) ∨
      (∃ current, events = [.call (.get s.slot) (.ok current)] ∧ s.amended? current = none) ∨
      ∃ current changed answer, s.amended? current = some changed ∧
        events = [.call (.get s.slot) (.ok current), .call (.replace ⟨s.kind, changed⟩) answer] ∧
        result = s.conclude answer := by
  unfold MarkerStep.run at run
  simp only [Program.get_bind, Program.runs_call] at run
  obtain ⟨answer, rest, rfl, run⟩ := run
  cases answer with
  | error error =>
    left
    cases error <;> (obtain ⟨rfl, _⟩ := Program.runs_pure.mp run; exact ⟨_, rfl⟩)
  | ok current =>
    right
    dsimp only at run
    cases amended : s.amended? current with
    | none =>
      rw [amended] at run
      obtain ⟨rfl, _⟩ := Program.runs_pure.mp run
      exact Or.inl ⟨current, rfl, amended⟩
    | some changed =>
      rw [amended] at run
      simp only [Program.replace_bind, Program.runs_call, Program.runs_pure] at run
      obtain ⟨answer, rest, rfl, rfl, rfl⟩ := run
      exact Or.inr ⟨current, changed, answer, amended, rfl, rfl⟩

theorem read_of_replace {before after : List Event} {written : Resource}
    {answer : Except StoreError Object}
    (run : s.run.Runs (before ++ .call (.replace written) answer :: after) result) :
    ∃ current, before = [.call (.get s.slot) (.ok current)] ∧
      s.amended? current = some written.object := by
  have member : Event.call (.replace written) answer ∈
      before ++ .call (.replace written) answer :: after := by simp
  rcases runs_cases run with
    ⟨error, same⟩ | ⟨current, same, _⟩ | ⟨current, changed, reply, amended, same, _⟩
  · simp [same] at member
  · simp [same] at member
  · have new : Event.call (.replace written) answer ∉
        [Event.call (.get s.slot) (.ok current)] := by simp
    obtain ⟨rfl, write⟩ := Event.eq_last same new
    cases write
    exact ⟨current, rfl, amended⟩

end MarkerStep

theorem Program.only_lookUntil (slot : Slot) (interval deadline : Duration) (looks : Nat) :
    (Program.lookUntil slot interval deadline looks).Only (· = .get slot) := by
  induction looks with
  | zero => trivial
  | succ looks ih =>
    rw [Program.lookUntil, Program.get_bind]
    refine ⟨rfl, ?_⟩
    intro answer
    rcases answer with error | object
    · cases error with
      | notFound text =>
        dsimp only
        rw [Program.now_bind]
        intro moment
        dsimp only
        split
        · trivial
        · exact ih
      | conflict text => trivial
      | alreadyExists text => trivial
      | request text => trivial
    · trivial

theorem Program.only_poll (slot : Slot) (window : PollWindow) :
    (Program.poll slot window).Only (· = .get slot) := by
  rw [Program.poll, Program.now_bind]
  intro start
  exact Program.only_lookUntil _ _ _ _

/-- What a wait for an object saw: nothing at first, with a pause before each further look, and then
the object, an error, or the end of the time or of the looks. -/
inductive Program.Looked (slot : Slot) : List Event → Except StoreError (Option Object) → Prop where
  | spent : Looked slot [] (.ok none)
  | found (object : Object) : Looked slot [.call (.get slot) (.ok object)] (.ok (some object))
  | failed {error : StoreError} (worse : ∀ text, error ≠ .notFound text) :
      Looked slot [.call (.get slot) (.error error)] (.error error)
  | late (text : String) (moment : Moment) :
      Looked slot [.call (.get slot) (.error (.notFound text)), .clock moment] (.ok none)
  | again {events : List Event} {value : Except StoreError (Option Object)} (text : String)
      (moment : Moment) (span : Duration) (rest : Looked slot events value) :
      Looked slot (.call (.get slot) (.error (.notFound text)) :: .clock moment :: .sleep span ::
        events) value

theorem Program.looked_of_lookUntil {slot : Slot} {interval deadline : Duration} {looks : Nat}
    {events : List Event} {value : Except StoreError (Option Object)}
    (run : (lookUntil slot interval deadline looks).Runs events value) :
    Looked slot events value := by
  induction looks generalizing events with
  | zero =>
    obtain ⟨rfl, rfl⟩ := runs_pure.mp run
    exact .spent
  | succ looks ih =>
    rw [lookUntil, get_bind, runs_call] at run
    obtain ⟨answer, rest, rfl, run⟩ := run
    rcases answer with error | object
    · cases error with
      | notFound text =>
        dsimp only at run
        rw [now_bind, runs_clock] at run
        obtain ⟨moment, later, rfl, run⟩ := run
        split at run
        · obtain ⟨rfl, rfl⟩ := runs_pure.mp run
          exact .late text moment
        · rw [pause_bind, runs_sleep] at run
          obtain ⟨others, rfl, run⟩ := run
          exact .again text moment interval (ih run)
      | _ =>
        obtain ⟨rfl, rfl⟩ := runs_pure.mp run
        exact .failed nofun
    · obtain ⟨rfl, rfl⟩ := runs_pure.mp run
      exact .found object

theorem Program.looked_of_poll {slot : Slot} {window : PollWindow} {events : List Event}
    {value : Except StoreError (Option Object)} (run : (poll slot window).Runs events value) :
    ∃ start looks, events = .clock start :: looks ∧ Looked slot looks value := by
  rw [poll, now_bind, runs_clock] at run
  obtain ⟨start, looks, rfl, run⟩ := run
  exact ⟨start, looks, rfl, looked_of_lookUntil run⟩

namespace CredentialStep
variable {s : CredentialStep} {now : Timestamp} {events : List Event} {result : StepResult}

def applied (s : CredentialStep) (credential : Manifest.Credential) : ApplyStep :=
  { owner := s.owner
    resource := (Manifest.credentialSecret s.blueprint credential).resource
    onError := .stop }

/-- What an issue did: no token was granted, or the secret with it could not be owned, or its apply
was refused, or it was applied, which is counted. -/
inductive Issuance (s : CredentialStep) (now : Timestamp) : List Event → StepResult → Prop where
  | ungranted (source : StoreError) :
      Issuance s now
        [.call (.requestToken s.accountSlot.key ⟨Conventions.audiences, s.ttl⟩) (.error source)]
        (.fail .stop (.token s.accountSlot.ident source))
  | unowned {token : String} (lone : (s.applied ⟨token, now.shift (reach s.ttl)⟩).desired? = none) :
      Issuance s now
        [.call (.requestToken s.accountSlot.key ⟨Conventions.audiences, s.ttl⟩) (.ok token)]
        (.fail .stop (.ownerReference s.owner.ident
          (s.applied ⟨token, now.shift (reach s.ttl)⟩).resource.ident))
  | refused {token : String} {r : Resource} (error : StoreError)
      (desired : (s.applied ⟨token, now.shift (reach s.ttl)⟩).desired? = some r) :
      Issuance s now
        [.call (.requestToken s.accountSlot.key ⟨Conventions.audiences, s.ttl⟩) (.ok token),
          .call (.apply r Conventions.fieldManager true) (.error error)]
        ((s.applied ⟨token, now.shift (reach s.ttl)⟩).conclude (.error error))
  | issued {token : String} {r : Resource} (stored : Object)
      (desired : (s.applied ⟨token, now.shift (reach s.ttl)⟩).desired? = some r) :
      Issuance s now
        [.call (.requestToken s.accountSlot.key ⟨Conventions.audiences, s.ttl⟩) (.ok token),
          .call (.apply r Conventions.fieldManager true) (.ok stored), .measure .rotation] .ok

theorem issuance_of_issue (run : (s.issue now).Runs events result) :
    s.Issuance now events result := by
  rw [issue, Program.requestToken_bind, Program.runs_call] at run
  obtain ⟨granted, rest, rfl, run⟩ := run
  rcases granted with source | token
  · obtain ⟨rfl, rfl⟩ := Program.runs_pure.mp run
    exact .ungranted source
  · obtain ⟨applying, ended, measured, rfl, apply, tail⟩ := Program.runs_bind.mp run
    rcases ApplyStep.runs_iff.mp apply with ⟨lone, rfl, rfl⟩ | ⟨r, answer, desired, rfl, rfl⟩
    · obtain ⟨rfl, rfl⟩ := Program.runs_pure.mp tail
      exact .unowned lone
    · dsimp only at tail
      rw [ApplyStep.isOk_conclude] at tail
      rcases answer with error | stored
      · obtain ⟨rfl, rfl⟩ := Program.runs_pure.mp tail
        exact .refused error desired
      · change (Program.record .rotation >>= fun _ => pure _).Runs measured result at tail
        rw [Program.record_bind, Program.runs_measure] at tail
        obtain ⟨nothing, rfl, finish⟩ := tail
        obtain ⟨rfl, rfl⟩ := Program.runs_pure.mp finish
        exact .issued stored desired

/-- What a credential step did. Without credentials it removed the secret. With them it waited for
its account, read the clock and looked for the secret, and issued one unless it found one that is
still good; each wait that failed was the end. -/
inductive Did (s : CredentialStep) : List Event → StepResult → Prop where
  | removed {events : List Event} {result : StepResult} (unwanted : s.enabled = false)
      (run : s.remove.Runs events result) : Did s events result
  | refused {waiting : List Event} {source : StoreError} (wanted : s.enabled = true)
      (waited : (Program.poll s.accountSlot ⟨s.pollInterval, s.accountTimeout⟩).Runs waiting
        (.error source)) :
      Did s waiting (.fail .stop (.refresh s.accountSlot.ident source))
  | missed {waiting : List Event} (wanted : s.enabled = true)
      (waited : (Program.poll s.accountSlot ⟨s.pollInterval, s.accountTimeout⟩).Runs waiting
        (.ok none)) :
      Did s waiting (.fail .stop (.missingDependency s.accountSlot.ident s.accountTimeout))
  | unread {waiting looking : List Event} {account : Object} {source : StoreError} {moment : Moment}
      (wanted : s.enabled = true)
      (waited : (Program.poll s.accountSlot ⟨s.pollInterval, s.accountTimeout⟩).Runs waiting
        (.ok (some account)))
      (looked : (Program.poll s.secretSlot ⟨s.pollInterval, s.existingTimeout⟩).Runs looking
        (.error source)) :
      Did s (waiting ++ .clock moment :: looking) (.fail .stop (.refresh s.secretSlot.ident source))
  | kept {waiting looking : List Event} {account existing : Object} {moment : Moment}
      (wanted : s.enabled = true)
      (waited : (Program.poll s.accountSlot ⟨s.pollInterval, s.accountTimeout⟩).Runs waiting
        (.ok (some account)))
      (looked : (Program.poll s.secretSlot ⟨s.pollInterval, s.existingTimeout⟩).Runs looking
        (.ok (some existing)))
      (good : s.needsRotation existing moment.wall = false) :
      Did s (waiting ++ .clock moment :: looking) .ok
  | renewed {waiting looking last : List Event} {account : Object} {found : Option Object}
      {moment : Moment} {result : StepResult} (wanted : s.enabled = true)
      (waited : (Program.poll s.accountSlot ⟨s.pollInterval, s.accountTimeout⟩).Runs waiting
        (.ok (some account)))
      (looked : (Program.poll s.secretSlot ⟨s.pollInterval, s.existingTimeout⟩).Runs looking
        (.ok found))
      (due : ∀ existing ∈ found, s.needsRotation existing moment.wall = true)
      (issuance : s.Issuance moment.wall last result) :
      Did s (waiting ++ .clock moment :: (looking ++ last)) result

theorem did_of_run (run : s.run.Runs events result) : s.Did events result := by
  unfold CredentialStep.run at run
  cases wanted : s.enabled with
  | false =>
    rw [if_pos (by simp [wanted])] at run
    exact .removed wanted run
  | true =>
    rw [if_neg (by simp [wanted])] at run
    obtain ⟨waiting, account, others, rfl, waited, afterWait⟩ := Program.runs_bind.mp run
    rcases account with error | _ | account
    · obtain ⟨rfl, rfl⟩ := Program.runs_pure.mp afterWait
      rw [List.append_nil]
      exact .refused wanted waited
    · obtain ⟨rfl, rfl⟩ := Program.runs_pure.mp afterWait
      rw [List.append_nil]
      exact .missed wanted waited
    · dsimp only at afterWait
      rw [Program.now_bind, Program.runs_clock] at afterWait
      obtain ⟨moment, later, rfl, dated⟩ := afterWait
      obtain ⟨looking, found, last, rfl, looked, afterLook⟩ := Program.runs_bind.mp dated
      rcases found with error | _ | existing
      · obtain ⟨rfl, rfl⟩ := Program.runs_pure.mp afterLook
        rw [List.append_nil]
        exact .unread wanted waited looked
      · exact .renewed wanted waited looked (by simp) (issuance_of_issue afterLook)
      · dsimp only at afterLook
        split at afterLook
        · next due =>
          exact .renewed wanted waited looked (by simpa using due) (issuance_of_issue afterLook)
        · next good =>
          obtain ⟨rfl, rfl⟩ := Program.runs_pure.mp afterLook
          rw [List.append_nil]
          exact .kept wanted waited looked (by simpa using good)

def mayCall (s : CredentialStep) (c : Call) : Prop :=
  c = .get s.accountSlot ∨ c = .get s.secretSlot ∨ c.verb = .requestToken ∨
    (∃ r, c = .apply r Conventions.fieldManager true ∧ r.slot = s.secretSlot) ∨
    c = .delete s.secretSlot

theorem only_issue (s : CredentialStep) (now : Timestamp) : (s.issue now).Only s.mayCall := by
  rw [issue, Program.requestToken_bind]
  refine ⟨Or.inr (Or.inr (Or.inl rfl)), ?_⟩
  intro answer
  rcases answer with error | token
  · trivial
  · refine Program.Only.bind ?_ ?_
    · unfold ApplyStep.run
      split
      · trivial
      · rename_i desired same
        refine ⟨Or.inr (Or.inr (Or.inr (Or.inl ⟨desired, rfl, ?_⟩))), fun _ => trivial⟩
        exact ApplyStep.slot_of_desired same
    · intro result
      dsimp only
      split <;> trivial

theorem only_run (s : CredentialStep) : s.run.Only s.mayCall := by
  unfold run
  split
  · exact ⟨Or.inr (Or.inr (Or.inr (Or.inr rfl))), fun _ => trivial⟩
  · refine Program.Only.bind ((Program.only_poll _ _).mono fun c same => Or.inl same) ?_
    intro account
    rcases account with error | account
    · trivial
    · rcases account with _ | account
      · trivial
      · dsimp only
        rw [Program.now_bind]
        intro moment
        refine Program.Only.bind
          ((Program.only_poll _ _).mono fun c same => Or.inr (Or.inl same)) ?_
        intro secret
        rcases secret with error | secret
        · trivial
        · rcases secret with _ | secret
          · exact s.only_issue _
          · dsimp only
            split
            · exact s.only_issue _
            · trivial

end CredentialStep

namespace Step

def mayCall : Step → Call → Prop
  | .apply s, c => ∃ r, s.desired? = some r ∧ c = .apply r Conventions.fieldManager true
  | .delete s, c => c = .delete s.resource.slot
  | .provision s, c => c = .get s.resource.slot ∨ c = .create s.resource
  | .credential s, c => s.mayCall c
  | .marker s, c => c = .get s.slot ∨ ∃ object, c = .replace ⟨s.kind, object⟩

theorem only_run (step : Step) : step.run.Only step.mayCall := by
  cases step with
  | apply s =>
    show s.run.Only _
    unfold ApplyStep.run
    split
    · trivial
    · rename_i desired same
      exact ⟨⟨desired, same, rfl⟩, fun _ => trivial⟩
  | delete s => exact ⟨rfl, fun _ => trivial⟩
  | provision s =>
    show s.run.Only _
    rw [ProvisionStep.run, Program.get_bind]
    refine ⟨Or.inl rfl, ?_⟩
    intro answer
    rcases answer with error | object
    · cases error with
      | notFound text => exact ⟨Or.inr rfl, fun _ => trivial⟩
      | conflict text => trivial
      | alreadyExists text => trivial
      | request text => trivial
    · trivial
  | credential s => exact s.only_run
  | marker s =>
    show s.run.Only _
    rw [MarkerStep.run, Program.get_bind]
    refine ⟨Or.inl rfl, ?_⟩
    intro answer
    rcases answer with error | current
    · cases error <;> trivial
    · dsimp only
      split
      · trivial
      · exact ⟨Or.inr ⟨_, rfl⟩, fun _ => trivial⟩

end Step
end AgentOperator
