import AgentOperator.Proofs.CredentialDecision
import AgentOperator.Proofs.InstanceWrites
import AgentOperator.Proofs.StepChange

/-!
Whether a credential step that ends well leaves a credential that can be used: a secret with a token
that expires after the buffer. What it issues is usable unless its expiration cannot be recorded. A
secret that it finds is judged by its expiration alone, so one without a token is kept like any
other.
-/
namespace AgentOperator

namespace Text.Base64

theorem encode_ne_nil {bytes : List UInt8} (present : bytes ≠ []) : encode bytes ≠ [] := by
  unfold encode
  split
  · exact absurd rfl present
  all_goals simp

theorem read_up_of_loop {bytes : ByteArray} {i : Nat} {read : List UInt8}
    (none_ : ByteArray.toList.loop bytes i read = []) : read = [] ∧ bytes.size ≤ i := by
  fun_induction ByteArray.toList.loop bytes i read with
  | case1 i read within ih => cases (ih none_).1
  | case2 i read past => exact ⟨List.reverse_eq_nil_iff.mp none_, Nat.not_lt.mp past⟩

theorem encodeText_ne_empty {text : String} (present : text ≠ "") : encodeText text ≠ "" := by
  intro blank
  have none_ : encode text.toUTF8.toList = [] := by
    have characters := congrArg String.toList blank
    simpa [encodeText] using characters
  have bytes : text.toUTF8.toList = [] := Decidable.byContradiction fun some_ =>
    encode_ne_nil some_ none_
  have size : text.utf8ByteSize ≤ 0 := (read_up_of_loop bytes).2
  exact present (String.utf8ByteSize_eq_zero_iff.mp (Nat.le_zero.mp size))

end Text.Base64

def Object.HasToken (o : Object) : Prop := ∃ text, o.token? = some text ∧ text ≠ ""

namespace Cluster
variable {c c' : Cluster} {slot : Slot} {o : Object} {events : List Event}

theorem token?_stamp (o : Object) (version : Nat) : (stamp o version).token? = o.token? := rfl

theorem token?_applied (c : Cluster) (r : Resource) : (c.applied r).token? = r.object.token? := by
  cases found : c.find? r.slot with
  | none => rw [applied_of_absent found]; rfl
  | some stored =>
    rw [applied_of_found found]
    have data : (c.merged stored r.object).data.get? "data" = r.object.data.get? "data" :=
      Object.get?_withStatus (by decide) r.object stored.status?
    unfold Object.token?
    rw [data]

theorem annotations_applied (c : Cluster) (r : Resource) :
    (c.applied r).metadata.annotations = r.object.metadata.annotations := by
  cases found : c.find? r.slot with
  | none => rw [applied_of_absent found]; rfl
  | some stored =>
    rw [applied_of_found found]
    show (r.object.withStatus stored.status?).metadata.annotations = _
    rw [Object.metadata_withStatus]

/-- Whoever issues the tokens, all other calls are served. -/
def ServesObjects (c : Cluster) (events : List Event) (c' : Cluster) : Prop :=
  c.Serves (events.filter fun e => e.verb? ≠ some .requestToken) c'

theorem Serves.find?_of_get (serves : c.Serves events c') (writeless : ∀ e ∈ events, e.Writeless)
    (member : .call (.get slot) (.ok o) ∈ events) : c.find? slot = some o := by
  obtain ⟨before, after, rfl⟩ := List.append_of_mem member
  obtain ⟨d, first, last⟩ := serves.split
  have alike := first.alike_of_writeless fun e early => writeless e (List.mem_append_left _ early)
  cases last with
  | @served b _ _ _ _ _ _ alike' now carried later =>
    have answered : b.get slot = .ok o := congrArg Prod.fst carried
    have found : b.find? slot = some o := by
      unfold get at answered
      split at answered
      · next there => exact there.trans (congrArg some (Except.ok.inj answered))
      · cases answered
    rw [← alike.find? slot, ← alike'.find? slot]
    exact found
  | skipped _ idle _ => exact absurd trivial idle

theorem ServesObjects.of_looks (serves : c.ServesObjects events c')
    (looks : ∀ e ∈ events, e.Looks) : c.Serves events c' := by
  have all : events.filter (fun e => e.verb? ≠ some .requestToken) = events := by
    rw [List.filter_eq_self]
    intro e member
    rcases looks e member with same | same <;> simp [same]
  rwa [ServesObjects, all] at serves

theorem ServesObjects.split {first last : List Event}
    (serves : c.ServesObjects (first ++ last) c') :
    ∃ d : Cluster, c.ServesObjects first d ∧ d.ServesObjects last c' := by
  rw [ServesObjects, List.filter_append] at serves
  exact serves.split

theorem Serves.exists_of_apply {r : Resource} {manager : String} {force : Bool} {answer : Object}
    {m : Measurement}
    (serves : c.Serves [.call (.apply r manager force) (.ok answer), .measure m] c') :
    ∃ stored, c'.find? r.slot = some stored ∧ stored.token? = r.object.token? ∧
      stored.metadata.annotations = r.object.metadata.annotations := by
  cases serves with
  | @served b _ d _ _ _ _ alike now carried later =>
    have effect : (b.apply r).2 = d := congrArg Prod.snd carried
    have there : d.find? r.slot = some (stamp (b.applied r) (b.version + 1)) := by
      rw [← effect, find?_apply, if_pos rfl]
    cases later with
    | skipped alike' _ done =>
      cases done
      exact ⟨_, (alike'.find? _).trans there, (token?_stamp _ _).trans (b.token?_applied r),
        b.annotations_applied r⟩
  | skipped _ idle _ => exact absurd trivial idle

end Cluster

namespace Timestamp

theorem shift_le_shift_iff {now : Timestamp} (clock : now.OnClock) (a b : Int) :
    now.shift a ≤ now.shift b ↔ a ≤ b := by
  rw [shift_forward clock, shift_forward clock, ofTotal_le_ofTotal_iff]
  omega

theorem regular_shift {now : Timestamp} (clock : now.OnClock) (span : Int) :
    (now.shift span).Regular := by
  rw [shift_forward clock]
  exact Or.inl (by simpa [isLeap] using calm_ofTotal (now.total + span))

theorem le_add_of_long {t now : Timestamp} {d : Duration} (recordable : t.Recordable)
    (clock : now.OnClock) (long : Expiry.longestSpan < d.nanos) : t ≤ now.add d := by
  have early := recordable.early
  have fine := recordable.fine
  have started := clock.1.1
  have last : lastDay = 95026236 := by decide
  have first : earliest.seconds = -8334601228800 := by decide
  rw [Timestamp.add, shift_forward clock, le_ofTotal_iff]
  rw [first] at started
  rw [last] at early
  unfold Expiry.longestSpan Duration.nanosPerMilli at long
  unfold Timestamp.total secondsPerDay nanosPerSecond at *
  split <;> omega

end Timestamp

namespace CredentialStep
variable {s : CredentialStep} {c c' : Cluster} {events : List Event} {now : Timestamp}
  {secret : Object}

/-- The moment that a run takes for now: it reads the clock once it has found its account. -/
def Dated (s : CredentialStep) (moment : Moment) (events : List Event) : Prop :=
  ∃ waiting account rest, events = waiting ++ .clock moment :: rest ∧
    Met s.accountSlot account waiting

/-- The secret holds a token and expires after the buffer. -/
structure Usable (s : CredentialStep) (secret : Object) (now : Timestamp) : Prop where
  token : secret.HasToken
  lasting : ∃ expiresAt, Expiry.recorded secret.metadata.annotations = .ok expiresAt ∧
    ¬ expiresAt ≤ now.add s.expiryBuffer

theorem usable_iff_of_good (clock : now.OnClock) (good : ¬ s.Lapses secret now) :
    s.Usable secret now ↔ secret.HasToken ∧ (s.expiryBuffer.nanos : Int) ≤ Expiry.longestSpan ∧
      ∀ expiresAt, Expiry.recorded secret.metadata.annotations = .ok expiresAt →
        expiresAt.isLeap → ¬ expiresAt ≤ now.add s.expiryBuffer := by
  constructor
  · rintro ⟨token, expiresAt, record, late⟩
    refine ⟨token, ?_, ?_⟩
    · refine Int.not_lt.mp fun long => late ?_
      exact Timestamp.le_add_of_long (Expiry.recordable_of_recorded record) clock long
    · intro other same _
      rw [record] at same
      cases same
      exact late
  · rintro ⟨token, short, leaps⟩
    obtain ⟨expiresAt, record, late⟩ := not_lapses_iff.mp good
    refine ⟨token, expiresAt, record, ?_⟩
    cases leap : expiresAt.isLeap with
    | true => exact leaps expiresAt record leap
    | false =>
      have none_ : expiresAt.leapPart = 0 := by
        simp only [Timestamp.isLeap, decide_eq_false_iff_not, Nat.not_le] at leap
        exact Nat.sub_eq_zero_of_le (Nat.le_of_lt leap)
      rw [none_, Nat.sub_zero, toNat_reach, reach_eq, if_pos short] at late
      exact late

theorem usable_iff_of_issued {token : String} {r : Resource} (clock : now.OnClock)
    (spaced : s.expiryBuffer < s.ttl) (granted : token ≠ "")
    (desired : (s.applied ⟨token, now.shift (reach s.ttl)⟩).desired? = some r)
    (tokens : secret.token? = r.object.token?)
    (annotations : secret.metadata.annotations = r.object.metadata.annotations) :
    s.Usable secret now ↔ (s.ttl.nanos : Int) ≤ Expiry.longestSpan ∧
      0 ≤ (now.add s.ttl).utcYear ∧ (now.add s.ttl).utcYear ≤ 9999 := by
  have holds : secret.HasToken :=
    ⟨_, tokens.trans (records_of_desired desired).token_eq, Text.Base64.encodeText_ne_empty granted⟩
  have record := recorded_of_desired desired (Timestamp.regular_shift clock _)
  rw [← annotations] at record
  have apart : (s.expiryBuffer.nanos : Int) < s.ttl.nanos := Int.ofNat_lt.mpr spaced
  constructor
  · rintro ⟨_, expiresAt, same, late⟩
    rw [record] at same
    split at same
    · next four =>
      cases same
      rw [Timestamp.add, Timestamp.shift_le_shift_iff clock, reach_eq] at late
      split at late
      · next short =>
        rw [reach_eq, if_pos short] at four
        exact ⟨short, four⟩
      · exact absurd (Int.natCast_nonneg _) late
    · cases same
  · rintro ⟨short, four⟩
    rw [reach_eq, if_pos short] at record
    refine ⟨holds, now.add s.ttl, record.trans (if_pos four), ?_⟩
    rw [Timestamp.add, Timestamp.add, Timestamp.shift_le_shift_iff clock]
    omega

/-- A step that ends well leaves a secret. One that it kept is usable exactly if it holds a token,
the buffer is not too long to be added, and it does not expire inside a leap second that the buffer
reaches; one that it issued, exactly if its life is not too long to be added and ends in a year that
a record can say. -/
theorem usable_iff_of_run (run : s.run.Runs events .ok) (wanted : s.enabled = true)
    (spaced : s.expiryBuffer < s.ttl) (serves : c.ServesObjects events c')
    (clock : ∀ moment, .clock moment ∈ events → moment.wall.OnClock)
    (granted : ∀ account request token,
      .call (.requestToken account request) (.ok token) ∈ events → token ≠ "") :
    ∃ moment stored, s.Dated moment events ∧ c'.find? s.secretSlot = some stored ∧
      ((∀ e ∈ events, e.Writeless) → c.find? s.secretSlot = some stored ∧
        (s.Usable stored moment.wall ↔
          stored.HasToken ∧ (s.expiryBuffer.nanos : Int) ≤ Expiry.longestSpan ∧
            ∀ expiresAt, Expiry.recorded stored.metadata.annotations = .ok expiresAt →
              expiresAt.isLeap → ¬ expiresAt ≤ moment.wall.add s.expiryBuffer)) ∧
      ((∃ e ∈ events, ¬ e.Writeless) →
        (s.Usable stored moment.wall ↔ (s.ttl.nanos : Int) ≤ Expiry.longestSpan ∧
          0 ≤ (moment.wall.add s.ttl).utcYear ∧ (moment.wall.add s.ttl).utcYear ≤ 9999)) := by
  generalize ended : StepResult.ok = result at run
  cases did_of_run run with
  | removed unwanted run => simp [wanted] at unwanted
  | refused wanted waited => cases ended
  | missed wanted waited => cases ended
  | unread wanted waited looked => cases ended
  | @kept waiting looking account existing moment wanted waited looked good =>
    have instant := clock moment (by simp)
    have sees : s.Sees (waiting ++ .clock moment :: looking) moment (some existing) :=
      .existing (Program.met_of_poll waited) (Program.met_of_poll looked)
    have writeless := fun e member => (sees.looks e member).writeless
    have served := serves.of_looks sees.looks
    obtain ⟨before, own, _⟩ := Program.met_of_poll looked
    have member : .call (.get s.secretSlot) (.ok existing) ∈
        waiting ++ .clock moment :: looking := by simp [own]
    have found := served.find?_of_get writeless member
    refine ⟨moment, existing, ⟨waiting, account, looking, rfl, Program.met_of_poll waited⟩,
      ((served.alike_of_writeless writeless).find? _).trans found, fun _ => ⟨found, ?_⟩, ?_⟩
    · refine usable_iff_of_good instant ?_
      rw [← needsRotation_iff instant, good]
      simp
    · rintro ⟨e, member, writes⟩
      exact absurd (writeless e member) writes
  | @renewed waiting looking last account found moment _ wanted waited looked due issuance =>
    subst ended
    obtain ⟨token, r, answer, desired, rfl⟩ := issuance.issued_of_ok
    have instant := clock moment (by simp)
    rw [← List.cons_append, ← List.append_assoc] at serves
    obtain ⟨d, _, last⟩ := serves.split
    have applied : d.Serves [.call (.apply r Conventions.fieldManager true) (.ok answer),
      .measure .rotation] c' := last
    obtain ⟨stored, there, tokens, annotations⟩ := applied.exists_of_apply
    rw [(records_of_desired desired).place] at there
    refine ⟨moment, stored, ⟨waiting, account, _, rfl, Program.met_of_poll waited⟩, there, ?_, ?_⟩
    · intro writeless
      have applied := writeless (.call (.apply r Conventions.fieldManager true) (.ok answer))
        (by simp)
      exact absurd applied Event.not_writeless_apply
    · intro _
      have nonempty := granted s.accountSlot.key ⟨Conventions.audiences, s.ttl⟩ token (by simp)
      exact usable_iff_of_issued instant spaced nonempty desired tokens annotations

end CredentialStep

namespace CredentialLoops

theorem rotation_servesObjects : ∃ found applied,
    credited.ServesObjects (rotation found applied ++ [.measure .rotation]) rotated :=
  ⟨_, _, .skipped (.refl _) id (.served (.refl _) noon.wall rfl (.skipped (.refl _) id
    (.skipped (.refl _) id (.served (.refl _) noon.wall rfl (.served (.refl _) noon.wall rfl
      (.skipped (.refl _) id (.done _)))))))⟩

/-- What the issuer puts in the place of a secret that does not say when it expires. -/
theorem rotation_usable : ∃ events moment stored, issuer.run.Runs events .ok ∧
    issuer.enabled = true ∧ issuer.expiryBuffer < issuer.ttl ∧
    credited.ServesObjects events rotated ∧
    (∀ moment, .clock moment ∈ events → moment.wall.OnClock) ∧
    (∀ account request token, .call (.requestToken account request) (.ok token) ∈ events →
      token ≠ "") ∧
    issuer.Dated moment events ∧ rotated.find? issuer.secretSlot = some stored ∧
    issuer.Usable stored moment.wall := by
  obtain ⟨found, applied, serves⟩ := rotation_servesObjects
  have run := rotation_runs found applied
  have clock : ∀ moment, .clock moment ∈ rotation found applied ++ [.measure .rotation] →
      moment = noon := by
    simp [rotation]
  have granted : ∀ account request given, .call (.requestToken account request) (.ok given) ∈
      rotation found applied ++ [.measure .rotation] → given ≠ "" := by
    intro account request given member
    obtain ⟨_, rfl⟩ : (account = _ ∧ request = _) ∧ given = token := by
      simpa [rotation] using member
    decide
  have onClock := fun moment member => (clock moment member).symm ▸ onClock_noon
  obtain ⟨moment, stored, dated, there, _, issued⟩ := CredentialStep.usable_iff_of_run run rfl
    (by decide) serves onClock granted
  obtain ⟨waiting, _, rest, same, _⟩ := id dated
  have now : moment = noon := clock moment (same ▸ by simp)
  refine ⟨_, moment, stored, run, rfl, by decide, serves, onClock, granted, dated, there,
    (issued ⟨.call (.apply fresh Conventions.fieldManager true) (.ok applied), ?_,
      Event.not_writeless_apply⟩).mpr ?_⟩
  · simp [rotation]
  · rw [now]
    decide

def registered : Object := (Cluster.insert {} ⟨.serviceAccount, account⟩).1

def blank : Object := (accounted.insert ⟨.secret, timed "2026-10-16T13:00:00Z"⟩).1

def emptied : Cluster := (accounted.create ⟨.secret, timed "2026-10-16T13:00:00Z"⟩).2

/-- It is kept, since it does not expire soon. -/
theorem blank_kept : issuer.run.Runs (keeping noon registered blank) .ok ∧
    emptied.Serves (keeping noon registered blank) emptied ∧ issuer.enabled = true ∧
    issuer.owner.reference.isSome = true ∧ issuer.expiryBuffer < issuer.ttl ∧
    emptied.find? issuer.secretSlot = some blank ∧ ∀ now, ¬ issuer.Usable blank now := by
  refine ⟨?run, ?serves, rfl, rfl, by decide, rfl, ?unusable⟩
  case serves =>
    exact .skipped (.refl _) id (.served (.refl _) noon.wall rfl (.skipped (.refl _) id
      (.skipped (.refl _) id (.served (.refl _) noon.wall rfl (.done _)))))
  case run => exact .clock _ (.call _ (.clock _ (.clock _ (.call _ (.done _)))))
  case unusable =>
    rintro now ⟨⟨text, token, _⟩, _⟩
    cases token

end CredentialLoops
end AgentOperator
