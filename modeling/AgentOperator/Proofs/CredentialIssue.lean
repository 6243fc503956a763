import AgentOperator.Proofs.StepEffect

/-!
How a credential step issues a secret. Whatever is applied, the run has waited for the account,
read the clock, found no secret that is still good and requested a token before it.
-/
namespace AgentOperator.CredentialStep
variable {s : CredentialStep} {events : List Event} {result : StepResult} {moment : Moment}
  {r : Resource}

/-- A run that has issued the secret `r`, which it dates from `moment`. -/
inductive Issues (s : CredentialStep) (moment : Moment) (r : Resource) : List Event → Prop where
  | intro {waiting looking rest : List Event} {account : Object} {found : Option Object}
      {token : String} {answer : Except StoreError Object}
      (waited : (Program.poll s.accountSlot ⟨s.pollInterval, s.accountTimeout⟩).Runs waiting
        (.ok (some account)))
      (looked : (Program.poll s.secretSlot ⟨s.pollInterval, s.existingTimeout⟩).Runs looking
        (.ok found))
      (due : ∀ existing ∈ found, s.needsRotation existing moment.wall)
      (desired : (s.applied ⟨token, moment.wall.shift (reach s.ttl)⟩).desired? = some r) :
      Issues s moment r (waiting ++ .clock moment :: (looking ++
        .call (.requestToken s.accountSlot.key ⟨Conventions.audiences, s.ttl⟩) (.ok token) ::
        .call (.apply r Conventions.fieldManager true) answer :: rest))

theorem not_apply_of_poll {slot : Slot} {window : PollWindow}
    {value : Except StoreError (Option Object)}
    (run : (Program.poll slot window).Runs events value) {manager : String} {force : Bool}
    {answer : Except StoreError Object} : .call (.apply r manager force) answer ∉ events := by
  intro member
  cases run.sort_of_mem (Program.only_poll slot window) member

theorem exists_token {now : Timestamp} (issuance : s.Issuance now events result)
    {manager : String} {force : Bool} {answer : Except StoreError Object}
    (member : .call (.apply r manager force) answer ∈ events) :
    ∃ token given rest, events =
        .call (.requestToken s.accountSlot.key ⟨Conventions.audiences, s.ttl⟩) (.ok token) ::
        .call (.apply r Conventions.fieldManager true) given :: rest ∧
      (s.applied ⟨token, now.shift (reach s.ttl)⟩).desired? = some r := by
  cases issuance with
  | ungranted source => simp at member
  | unowned lone => simp at member
  | @refused token sent error desired =>
    obtain ⟨⟨rfl, _⟩, _⟩ : (r = sent ∧ _) ∧ _ := by simpa using member
    exact ⟨token, _, [], rfl, desired⟩
  | @issued token sent stored desired =>
    obtain ⟨⟨rfl, _⟩, _⟩ : (r = sent ∧ _) ∧ _ := by simpa using member
    exact ⟨token, _, _, rfl, desired⟩

theorem issues_of_apply (run : s.run.Runs events result) {manager : String} {force : Bool}
    {answer : Except StoreError Object}
    (member : .call (.apply r manager force) answer ∈ events) :
    ∃ moment, s.Issues moment r events := by
  cases did_of_run run with
  | removed unwanted run =>
    obtain ⟨_, rfl, _⟩ := DeleteStep.runs_iff.mp run
    simp at member
  | refused wanted waited => exact absurd member (not_apply_of_poll waited)
  | missed wanted waited => exact absurd member (not_apply_of_poll waited)
  | unread wanted waited looked =>
    simp [not_apply_of_poll waited, not_apply_of_poll looked] at member
  | kept wanted waited looked good =>
    simp [not_apply_of_poll waited, not_apply_of_poll looked] at member
  | renewed wanted waited looked due issuance =>
    have inLast := by
      simpa [not_apply_of_poll waited, not_apply_of_poll looked] using member
    obtain ⟨token, given, rest, rfl, desired⟩ := exists_token issuance inLast
    exact ⟨_, .intro waited looked due desired⟩

end AgentOperator.CredentialStep
