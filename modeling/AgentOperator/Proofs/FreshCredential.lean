import AgentOperator.Pass
import AgentOperator.Proofs.CredentialIssue
import AgentOperator.Proofs.ExpiryRace
import AgentOperator.Proofs.TimestampText

/-!
What the expiry loop makes of a secret at the instant that the credential step dates it from. The
step gives every token the same time to live, but how long before the expiration the secret is
deleted is a setting.
-/
namespace AgentOperator
namespace Expiry

theorem ttl_le_lead_iff (refresh : Duration) :
    Conventions.tokenTtl.nanos ≤ lead refresh ↔ Conventions.tokenTtl.nanos ≤ 2 * refresh.nanos := by
  have far : Conventions.tokenTtl.nanos ≤ longestSpan.toNat := by decide
  unfold lead
  omega

theorem lead_of_lt (refresh : Duration) (short : 2 * refresh.nanos < Conventions.tokenTtl.nanos) :
    lead refresh = 2 * refresh.nanos := by
  have far : Conventions.tokenTtl.nanos ≤ longestSpan.toNat := by decide
  unfold lead
  omega

section Issued
variable {now : Timestamp} (fine : now.nanos < 2 * Timestamp.nanosPerSecond)
  (started : Timestamp.earliest.seconds ≤ now.seconds)
include fine

theorem expiration_eq : now.shift Conventions.tokenTtl.nanos =
    ⟨now.seconds + 3600, now.nanos % Timestamp.nanosPerSecond⟩ :=
  Timestamp.shift_whole fine (by decide)

theorem shift_expiration (span : Nat) :
    (now.shift Conventions.tokenTtl.nanos).shift (-span) =
      .ofTotal ((now.seconds + 3600) * Timestamp.nanosPerSecond +
        (now.nanos % Timestamp.nanosPerSecond : Nat) - span) := by
  have calm : now.nanos % Timestamp.nanosPerSecond < Timestamp.nanosPerSecond :=
    Nat.mod_lt _ (by decide)
  rw [expiration_eq fine, Timestamp.shift_back (by dsimp only; omega), if_neg]
  · rfl
  · simp [Timestamp.isLeap, Nat.not_le.mpr calm]

include started

theorem due_of_long {refresh : Duration}
    (long : Conventions.tokenTtl.nanos ≤ lead refresh) :
    (trigger (now.shift Conventions.tokenTtl.nanos) refresh).since now ≤ 0 := by
  have ttl : Conventions.tokenTtl.nanos = 3600000000000 := rfl
  rw [ttl] at long
  rw [trigger_eq, Timestamp.shift?, shift_expiration fine]
  generalize lead refresh = span at *
  split
  · rw [Option.getD_some, Timestamp.since_of_calm (Timestamp.calm_ofTotal _)]
    unfold Timestamp.ofTotal Timestamp.isLeap Timestamp.nanosPerSecond at *
    simp only [decide_eq_true_eq]
    split <;> omega
  · rw [Option.getD_none, Timestamp.since_of_calm (by decide)]
    have start : Timestamp.earliest.nanos = 0 := rfl
    generalize Timestamp.earliest = first at *
    unfold Timestamp.isLeap Timestamp.nanosPerSecond at *
    simp only [decide_eq_true_eq]
    split <;> omega

theorem soon_of_short {secs : Nat} (short : secs < 1800)
    (early : now.seconds + 3600 < (Timestamp.lastDay + 1) * Timestamp.secondsPerDay) :
    0 < (trigger (now.shift Conventions.tokenTtl.nanos) (.ofSecs secs)).since now := by
  have refresh : (Duration.ofSecs secs).nanos = secs * 1000000000 := rfl
  have span : lead (.ofSecs secs) = 2 * secs * 1000000000 := by
    rw [lead_of_lt _ (show _ < 3600000000000 by omega)]
    omega
  rw [trigger_eq, Timestamp.shift?, shift_expiration fine, span, if_pos]
  · rw [Option.getD_some, Timestamp.since_of_calm (Timestamp.calm_ofTotal _)]
    unfold Timestamp.ofTotal Timestamp.isLeap Timestamp.nanosPerSecond at *
    simp only [decide_eq_true_eq]
    split <;> omega
  · unfold Timestamp.InCalendar Timestamp.ofTotal Timestamp.nanosPerSecond
    dsimp only
    omega

end Issued

def Survives (annotations : Option (Fields String)) (now : Timestamp) (refresh : Duration) : Prop :=
  ∃ after : Duration, 0 < after.nanos ∧ decide annotations now refresh = .recheck after

theorem survives_iff {annotations : Option (Fields String)} {now expiresAt : Timestamp}
    {refresh : Duration} (record : recorded annotations = .ok expiresAt) :
    Survives annotations now refresh ↔ 0 < (trigger expiresAt refresh).since now := by
  unfold Survives decide
  rw [record]
  dsimp only
  split
  · next soon =>
    constructor
    · intro _
      exact soon
    · intro _
      refine ⟨_, ?_, rfl⟩
      dsimp only
      omega
  · next due => simp [due]

end Expiry

theorem ApplyStep.annotations_of_desired {s : ApplyStep} {r : Resource}
    (desired : s.desired? = some r) :
    r.object.metadata.annotations = s.resource.object.metadata.annotations :=
  sent_as_given (·.object.metadata.annotations) (fun _ _ => rfl) desired

theorem Expiry.recorded_render {t : Timestamp} (regular : t.Regular) :
    recorded (some [(Conventions.expirationAnnotation, t.render)]) =
      if 0 ≤ t.utcYear ∧ t.utcYear ≤ 9999 then .ok t else .error .invalidExpiration := by
  have found : Fields.get? [(Conventions.expirationAnnotation, t.render)]
      Conventions.expirationAnnotation = some t.render := by
    simp [Fields.get?]
  rw [Expiry.recorded, Option.getD_some, found]
  by_cases four : 0 ≤ t.utcYear ∧ t.utcYear ≤ 9999
  · simp [Timestamp.read_render regular, four]
  · simp [Timestamp.read_render regular, four]

theorem CredentialStep.recorded_of_desired {s : CredentialStep} {token : String}
    {expiresAt : Timestamp} {r : Resource}
    (desired : (s.applied ⟨token, expiresAt⟩).desired? = some r) (regular : expiresAt.Regular) :
    Expiry.recorded r.object.metadata.annotations =
      if 0 ≤ expiresAt.utcYear ∧ expiresAt.utcYear ≤ 9999 then .ok expiresAt
      else .error .invalidExpiration := by
  have annotations : r.object.metadata.annotations =
      some [(Conventions.expirationAnnotation, expiresAt.render)] :=
    ApplyStep.annotations_of_desired desired
  rw [annotations, Expiry.recorded_render regular]

theorem CredentialStep.survives_iff {s : CredentialStep} {token : String} {now : Timestamp}
    {r : Resource}
    (desired : (s.applied ⟨token, now.shift Conventions.tokenTtl.nanos⟩).desired? = some r)
    (dated : 0 ≤ now.utcYear) (fine : now.nanos < 2 * Timestamp.nanosPerSecond) (secs : Nat) :
    Expiry.Survives r.object.metadata.annotations now (.ofSecs secs) ↔
      2 * (Duration.ofSecs secs).nanos < Conventions.tokenTtl.nanos ∧
        (now.shift Conventions.tokenTtl.nanos).utcYear ≤ 9999 := by
  have expires := Expiry.expiration_eq fine
  have year0 := Timestamp.utcYear_lt_iff now 0
  have calendar : Timestamp.earliest.seconds ≤ Date.toDays ⟨0, 1, 1⟩ * Timestamp.secondsPerDay := by
    decide
  have started : Timestamp.earliest.seconds ≤ now.seconds := by omega
  have later : 0 ≤ (now.shift Conventions.tokenTtl.nanos).utcYear := by
    have := Timestamp.utcYear_lt_iff (now.shift Conventions.tokenTtl.nanos) 0
    rw [expires] at *
    dsimp only at *
    omega
  have regular : (now.shift Conventions.tokenTtl.nanos).Regular := by
    rw [expires]
    exact Or.inl (Nat.mod_lt _ (by decide))
  have record := recorded_of_desired desired regular
  by_cases four : (now.shift Conventions.tokenTtl.nanos).utcYear ≤ 9999
  · rw [if_pos ⟨later, four⟩] at record
    rw [Expiry.survives_iff record]
    by_cases short : 2 * (Duration.ofSecs secs).nanos < Conventions.tokenTtl.nanos
    · have whole : 2 * (secs * 1000000000) < 3600000000000 := short
      have endOfYears := Timestamp.utcYear_lt_iff (now.shift Conventions.tokenTtl.nanos) 10000
      have last : Date.toDays ⟨10000, 1, 1⟩ * Timestamp.secondsPerDay ≤
          (Timestamp.lastDay + 1) * Timestamp.secondsPerDay := by decide
      have early : now.seconds + 3600 < (Timestamp.lastDay + 1) * Timestamp.secondsPerDay := by
        rw [expires] at endOfYears four
        dsimp only at endOfYears
        omega
      simp [Expiry.soon_of_short fine started (show secs < 1800 by omega) early, short, four]
    · have long := (Expiry.ttl_le_lead_iff (.ofSecs secs)).mpr (Nat.not_lt.mp short)
      have due := Expiry.due_of_long fine started long
      simp [Int.not_lt.mpr due, short]
  · rw [if_neg (by simp [four])] at record
    simp [Expiry.Survives, Expiry.decide, record, four]

/-- A secret survives the instant it is dated from exactly if two refresh intervals are shorter than
the life of a token and the year of its expiration has four digits. -/
theorem Instance.fresh_credential_survives_iff {i : Instance} {spec : AgentSpec}
    {env : Fields String} {events : List Event} {result : StepResult} {r : Resource}
    {manager : String} {force : Bool} {answer : Except StoreError Object}
    (run : (i.credentialStep spec (.ofEnvironment env)).run.Runs events result)
    (applied : .call (.apply r manager force) answer ∈ events) :
    (∃ moment, (i.credentialStep spec (.ofEnvironment env)).Issues moment r events) ∧
    ∀ moment, (i.credentialStep spec (.ofEnvironment env)).Issues moment r events →
      0 ≤ moment.wall.utcYear → moment.wall.nanos < 2 * Timestamp.nanosPerSecond →
      (Expiry.Survives r.object.metadata.annotations moment.wall
          (Settings.ofEnvironment env).refreshInterval ↔
        2 * (Settings.ofEnvironment env).refreshInterval.nanos < Conventions.tokenTtl.nanos ∧
          (moment.wall.shift Conventions.tokenTtl.nanos).utcYear ≤ 9999) := by
  constructor
  · exact CredentialStep.issues_of_apply run applied
  · intro moment issues dated fine
    cases issues with
    | intro waited looked due desired =>
      exact CredentialStep.survives_iff desired dated fine _

namespace CredentialLoops

theorem rotation_issues {s : CredentialStep} (same : s = issuer) (found applied : Object) :
    s.Issues noon fresh (rotation found applied ++ [.measure .rotation]) := by
  subst same
  have waited : (Program.poll issuer.accountSlot ⟨issuer.pollInterval, issuer.accountTimeout⟩).Runs
      [.clock noon, .call (.get issuer.accountSlot) (.ok found)] (.ok (some found)) :=
    .clock _ (.call _ (.done _))
  have looked : (Program.poll issuer.secretSlot ⟨issuer.pollInterval, issuer.existingTimeout⟩).Runs
      [.clock noon, .call (.get issuer.secretSlot) (.ok stored)] (.ok (some stored)) :=
    .clock _ (.call _ (.done _))
  exact .intro waited looked (by simp; rfl) rfl

theorem fresh_survives :
    (telemetry.credentialStep { credentials := true } (.ofEnvironment [])).Issues noon fresh
        (rotation account fresh.object ++ [.measure .rotation]) ∧
      Expiry.Survives fresh.object.metadata.annotations noon.wall
        (Settings.ofEnvironment []).refreshInterval := by
  have step : telemetry.credentialStep { credentials := true } (.ofEnvironment []) = issuer := rfl
  have run := rotation_runs account fresh.object
  have applied : .call (.apply fresh Conventions.fieldManager true) (.ok fresh.object) ∈
      rotation account fresh.object ++ [.measure .rotation] := by simp [rotation]
  rw [← step] at run
  have law := telemetry.fresh_credential_survives_iff run applied
  have issues := rotation_issues step account fresh.object
  exact ⟨issues, (law.2 noon issues (by decide) (by decide)).mpr (by decide)⟩

def hasty : Fields String := [("TOKEN_REFRESH_INTERVAL_SECS", "1800")]

theorem refreshInterval_hasty : (Settings.ofEnvironment hasty).refreshInterval = .ofSecs 1800 := by
  rfl

/-- What has just been issued is deleted at once. -/
theorem fresh_deleted_when_issued :
    (telemetry.credentialStep { credentials := true } (.ofEnvironment hasty)).run.Runs
        (rotation account fresh.object ++ [.measure .rotation]) .ok ∧
      (telemetry.credentialStep { credentials := true } (.ofEnvironment hasty)).Issues noon fresh
        (rotation account fresh.object ++ [.measure .rotation]) ∧
      0 ≤ noon.wall.utcYear ∧ noon.wall.utcYear ≤ 9999 ∧ noon.wall.OnClock ∧
      Expiry.decide fresh.object.metadata.annotations noon.wall
        (Settings.ofEnvironment hasty).refreshInterval = .delete .expiring := by
  have step : telemetry.credentialStep { credentials := true } (.ofEnvironment hasty) = issuer :=
    rfl
  refine ⟨?_, rotation_issues step account fresh.object, by decide, by decide, onClock_noon, ?_⟩
  · rw [step]
    exact rotation_runs account fresh.object
  · rw [refreshInterval_hasty]
    rfl

end CredentialLoops
end AgentOperator
