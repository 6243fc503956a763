import AgentOperator.Proofs.ExpiryArithmetic
import AgentOperator.Proofs.FreshCredential
import AgentOperator.Proofs.Waiting

/-!
What one call of the credential step decides and writes, whatever the store answers. It requests a
token only after it has found the account and has no secret that is still good, applies only the
secret with the token just returned, and writes nothing if it keeps the secret or fails before. The
arithmetic of its spans is part of it: one that is too long to be added to an instant counts as
none, and an expiration inside a leap second shortens the buffer by as much as it is into it.
-/
namespace AgentOperator
namespace Timestamp

def leapPart (t : Timestamp) : Nat := t.nanos - nanosPerSecond

theorem shift_back_le_iff {t now : Timestamp} (fine : t.nanos < 2 * nanosPerSecond)
    (clock : now.OnClock) (lead : Nat) :
    t.shift (-lead) ≤ now ↔ t ≤ now.shift (lead - t.leapPart : Nat) := by
  have calm := clock.2
  have order (a b : Timestamp) :
      a ≤ b ↔ a.seconds < b.seconds ∨ a.seconds = b.seconds ∧ a.nanos ≤ b.nanos := Iff.rfl
  rw [shift_back fine, shift_forward clock, le_ofTotal_iff, order]
  unfold leapPart isLeap ofTotal Timestamp.total nanosPerSecond at *
  simp only [decide_eq_true_eq]
  split <;> split <;> dsimp only <;> omega

theorem ofTotal_le_ofTotal_iff {x y : Int} : ofTotal x ≤ ofTotal y ↔ x ≤ y := by
  rw [le_ofTotal_iff, calm_ofTotal, if_neg (by simp), total_ofTotal]

theorem shift_mono {a b : Timestamp} (first : a.OnClock) (second : b.OnClock) (order : a ≤ b)
    (span : Int) : a.shift span ≤ b.shift span := by
  have total : a.total ≤ b.total := by
    have subsecond := first.2
    have order : a.seconds < b.seconds ∨ a.seconds = b.seconds ∧ a.nanos ≤ b.nanos := order
    unfold Timestamp.total nanosPerSecond at *
    omega
  rw [shift_forward first, shift_forward second, ofTotal_le_ofTotal_iff]
  omega

end Timestamp

def Object.token? (o : Object) : Option String :=
  ((o.data.get? "data").bind (·.get? Conventions.tokenKey)).bind Json.str?

namespace Event
variable {e : Event}

def Writeless (e : Event) : Prop :=
  e.verb? = none ∨ e.verb? = some .get ∨ e.verb? = some .requestToken

theorem not_writeless_apply {r : Resource} {manager : String} {force : Bool}
    {answer : Except StoreError Object} :
    ¬ (Event.call (.apply r manager force) answer).Writeless := by
  simp [Writeless, verb?, Call.verb]

theorem countP_of_looks {events : List Event} {verb : Verb} (other : verb ≠ .get)
    (looks : ∀ e ∈ events, e.Looks) : events.countP (fun e => e.verb? = some verb) = 0 := by
  rw [List.countP_eq_zero]
  intro e member
  rcases looks e member with same | same <;> simp [same, Ne.symm other]

theorem not_mem_of_only {events : List Event} {verb : Verb} {c : Call} {answer : c.Answer}
    (other : c.verb ≠ verb) (only : ∀ e ∈ events, e.verb? = none ∨ e.verb? = some verb) :
    .call c answer ∉ events := by
  intro member
  rcases only _ member with silent | same
  · cases silent
  · exact other (Option.some.inj same)

theorem Looks.writeless (looks : e.Looks) : e.Writeless :=
  looks.imp_right Or.inl

end Event

theorem Cluster.Serves.alike_of_writeless {c c' : Cluster} {events : List Event}
    (serves : c.Serves events c') (writeless : ∀ e ∈ events, e.Writeless) : c'.Alike c := by
  let sort (call : Call) : Prop := call.verb = .get ∨ call.verb = .requestToken
  have step (d : Cluster) (now : Timestamp) (call : Call) (narrow : sort call)
      (same : d.Alike c) : (d.carryOut now call).2.Alike c := by
    cases call with
    | get slot => exact same
    | requestToken account request => exact same
    | _ => simp [sort, Call.verb] at narrow
  have only (call : Call) (answer : call.Answer) (member : .call call answer ∈ events) :
      sort call := by
    rcases writeless _ member with silent | verb | verb
    · cases silent
    · exact Or.inl (Option.some.inj verb)
    · exact Or.inr (Option.some.inj verb)
  exact serves.keeps (P := (·.Alike c)) (fun b d alike same => alike.trans same) step only (.refl c)

namespace CredentialStep
variable {s : CredentialStep} {events seeing before after : List Event} {result : StepResult}
  {moment : Moment} {found : Option Object} {e : Event}

/-- The secret says nothing of its expiration that could be read, or that it comes before the buffer
is over. -/
def Lapses (s : CredentialStep) (secret : Object) (now : Timestamp) : Prop :=
  ∀ expiresAt, Expiry.recorded secret.metadata.annotations = .ok expiresAt →
    expiresAt ≤ now.shift ((reach s.expiryBuffer).toNat - expiresAt.leapPart : Nat)

theorem not_lapses_iff {secret : Object} {now : Timestamp} :
    ¬ s.Lapses secret now ↔ ∃ expiresAt,
      Expiry.recorded secret.metadata.annotations = .ok expiresAt ∧
        ¬ expiresAt ≤ now.shift ((reach s.expiryBuffer).toNat - expiresAt.leapPart : Nat) := by
  unfold Lapses
  simp only [Classical.not_forall, exists_prop]

theorem reach_eq (d : Duration) :
    reach d = if (d.nanos : Int) ≤ Expiry.longestSpan then (d.nanos : Int) else 0 := by
  unfold reach Expiry.span?
  split <;> rfl

theorem toNat_reach (d : Duration) : ((reach d).toNat : Int) = reach d := by
  rw [reach_eq]
  split <;> omega

theorem needsRotation_iff {secret : Object} {now : Timestamp} (clock : now.OnClock) :
    s.needsRotation secret now = true ↔ s.Lapses secret now := by
  unfold needsRotation Lapses
  cases record : Expiry.recorded secret.metadata.annotations with
  | error reason => exact iff_of_true rfl nofun
  | ok expiresAt =>
    have fine := (Expiry.recordable_of_recorded record).fine
    have lead := toNat_reach s.expiryBuffer
    generalize (reach s.expiryBuffer).toNat = nanos at *
    rw [← lead, decide_eq_true_iff, Timestamp.shift_back_le_iff fine clock]
    constructor
    · rintro early _ ⟨⟩
      exact early
    · intro early
      exact early expiresAt rfl

/-- Where the step moves an instant, the move stays in the calendar: back from a recorded expiration
by any buffer shorter than the calendar before year 0, and forward from a clock that is not within
a lifetime of the calendar's end. -/
theorem moves_in_calendar {secret : Object} {expiresAt now : Timestamp}
    (record : Expiry.recorded secret.metadata.annotations = .ok expiresAt)
    (short : (s.expiryBuffer.nanos : Int) ≤ Timestamp.longestLead) (clock : now.OnClock)
    (before : now.total + s.ttl.nanos < Timestamp.endTotal) :
    expiresAt.shift? (-(reach s.expiryBuffer)) =
        some (expiresAt.shift (-(reach s.expiryBuffer))) ∧
      now.shift? (reach s.ttl) = some (now.shift (reach s.ttl)) := by
  have least : 0 ≤ reach s.ttl ∧ reach s.ttl ≤ s.ttl.nanos := by
    rw [reach_eq]
    split <;> omega
  constructor
  · have cut : ((reach s.expiryBuffer).toNat : Int) ≤ s.expiryBuffer.nanos := by
      rw [toNat_reach, reach_eq]
      split <;> omega
    rw [← toNat_reach s.expiryBuffer]
    exact (Expiry.recordable_of_recorded record).shift?_back (Int.le_trans cut short)
  · rw [clock.shift?_eq_some_iff]
    have bounds := clock.bounds
    omega

example : (Conventions.expiryBuffer.nanos : Int) ≤ Timestamp.longestLead := by decide

/-- What a run has seen before it decides, with the moment that it takes for now: it found its
account, read the clock, and then found its secret or waited for it in vain. -/
inductive Sees (s : CredentialStep) : List Event → Moment → Option Object → Prop where
  | existing {waiting looking : List Event} {account existing : Object} {moment : Moment}
      (met : Met s.accountSlot account waiting) (seen : Met s.secretSlot existing looking) :
      Sees s (waiting ++ .clock moment :: looking) moment (some existing)
  | nothing {waiting looking : List Event} {account : Object} {moment : Moment}
      (met : Met s.accountSlot account waiting)
      (unseen : Unmet s.secretSlot ⟨s.pollInterval, s.existingTimeout⟩ looking) :
      Sees s (waiting ++ .clock moment :: looking) moment none

namespace Sees

theorem calm (sees : s.Sees events moment found) : ∀ e ∈ events, e.Calm := by
  cases sees with
  | existing met seen =>
    exact List.forall_mem_append.mpr ⟨met.calm, List.forall_mem_cons.mpr ⟨Or.inl rfl, seen.calm⟩⟩
  | nothing met unseen =>
    exact List.forall_mem_append.mpr ⟨met.calm, List.forall_mem_cons.mpr ⟨Or.inl rfl, unseen.calm⟩⟩

theorem looks (sees : s.Sees events moment found) : ∀ e ∈ events, e.Looks :=
  fun e member => (sees.calm e member).looks

theorem clock_mem (sees : s.Sees events moment found) : .clock moment ∈ events := by
  cases sees <;> simp

theorem finds_account (sees : s.Sees events moment found) :
    ∃ e ∈ events, e.Finds s.accountSlot := by
  cases sees with
  | existing met seen =>
    obtain ⟨e, member, finds⟩ := met.finds
    exact ⟨e, List.mem_append_left _ member, finds⟩
  | nothing met unseen =>
    obtain ⟨e, member, finds⟩ := met.finds
    exact ⟨e, List.mem_append_left _ member, finds⟩

theorem unique {existing : Object} {reading : Moment} {seeing rest : List Event}
    (sees : s.Sees events moment found) (again : s.Sees seeing reading (some existing))
    (within : seeing <+: events ++ rest) (past : ∀ e ∈ rest, ¬ e.Finds s.secretSlot) :
    reading = moment ∧ found = some existing := by
  obtain ⟨more, same⟩ := within
  cases again with
  | existing met seen =>
    rw [List.append_assoc] at same
    cases sees with
    | existing met' seen' =>
      rw [List.append_assoc] at same
      obtain ⟨_, later⟩ := met.unique met' same
      obtain ⟨now, looked⟩ := List.cons.inj later
      cases now
      obtain ⟨rfl, _⟩ := seen.unique seen' looked
      exact ⟨rfl, rfl⟩
    | nothing met' unseen =>
      rw [List.append_assoc] at same
      obtain ⟨_, later⟩ := met.unique met' same
      obtain ⟨_, looked⟩ := List.cons.inj later
      obtain ⟨e, member, finds⟩ := seen.finds
      have there := List.append_eq.symm.trans looked ▸ List.mem_append_left more member
      rcases List.mem_append.mp there with inLook | inRest
      · exact absurd finds (Event.not_finds_of_misses (unseen.1 e inLook))
      · exact absurd finds (past e inRest)

end Sees

/-- How a run ends by what it has seen: a wait stops it, it keeps its secret, or it issues one. -/
inductive Ended (s : CredentialStep) : List Event → StepResult → Prop where
  | stopped {events : List Event} {result : StepResult}
      (looks : ∀ e ∈ events, e.Looks)
      (blind : ∀ seeing moment existing, seeing <+: events → ¬ s.Sees seeing moment (some existing))
      (stops : result.action = .stop) (fails : result.error.isSome = true) : Ended s events result
  | kept {events : List Event} {moment : Moment} {existing : Object}
      (sees : s.Sees events moment (some existing)) (good : ¬ s.Lapses existing moment.wall) :
      Ended s events .ok
  | renewed {seeing last : List Event} {moment : Moment} {found : Option Object}
      {result : StepResult} (sees : s.Sees seeing moment found)
      (due : ∀ existing ∈ found, s.Lapses existing moment.wall)
      (issuance : s.Issuance moment.wall last result) : Ended s (seeing ++ last) result

theorem blind_of_poll {value : Except StoreError (Option Object)}
    (waited : (Program.poll s.accountSlot ⟨s.pollInterval, s.accountTimeout⟩).Runs events value)
    (vain : ∀ account, value ≠ .ok (some account)) (within : seeing <+: events) :
    ¬ s.Sees seeing moment found := by
  intro sees
  obtain ⟨e, member, finds⟩ := sees.finds_account
  obtain ⟨account, same⟩ := Program.found_of_finds waited (within.subset member) finds
  exact vain account same

theorem ended_of_run {t : Timeline} (clocks : t.OnClocks) (wanted : s.enabled = true)
    (run : s.run.Runs t.events result) : s.Ended t.events result := by
  have reading (moment : Moment) (member : .clock moment ∈ t.events) := (clocks.reading member).2
  have stretch (first middle last : List Event) (same : t.events = first ++ (middle ++ last)) :=
    clocks.stretch same
  generalize t.events = events at *
  cases did_of_run run with
  | removed unwanted run => simp [wanted] at unwanted
  | refused wanted waited =>
    exact .stopped (Program.looks_of_poll waited)
      (fun _ _ _ => blind_of_poll waited (by simp)) rfl rfl
  | missed wanted waited =>
    exact .stopped (Program.looks_of_poll waited)
      (fun _ _ _ => blind_of_poll waited (by simp)) rfl rfl
  | @unread waiting looking account source moment wanted waited looked =>
    refine .stopped (List.forall_mem_append.mpr ⟨Program.looks_of_poll waited,
      List.forall_mem_cons.mpr ⟨Or.inl rfl, Program.looks_of_poll looked⟩⟩) ?_ rfl rfl
    rintro seeing reading existing ⟨more, same⟩ sees
    cases sees with
    | existing met seen =>
      rw [List.append_assoc] at same
      obtain ⟨_, later⟩ := met.unique (Program.met_of_poll waited) same
      obtain ⟨_, tail⟩ := List.cons.inj later
      obtain ⟨e, member, finds⟩ := seen.finds
      obtain ⟨_, same⟩ :=
        Program.found_of_finds looked (tail ▸ List.mem_append_left more member) finds
      cases same
  | @kept waiting looking account existing moment wanted waited looked good =>
    have clock := reading moment (by simp)
    refine .kept (.existing (Program.met_of_poll waited) (Program.met_of_poll looked)) ?_
    rw [← needsRotation_iff clock, good]
    simp
  | @renewed waiting looking last account found moment _ wanted waited looked due issuance =>
    have clock := reading moment (by simp)
    have lapsed : ∀ existing ∈ found, s.Lapses existing moment.wall :=
      fun existing member => (needsRotation_iff clock).mp (due existing member)
    rw [← List.cons_append, ← List.append_assoc]
    refine .renewed ?_ lapsed issuance
    cases found with
    | some existing => exact .existing (Program.met_of_poll waited) (Program.met_of_poll looked)
    | none =>
      obtain ⟨u, rfl, within⟩ := stretch (waiting ++ [.clock moment]) looking last (by simp)
      exact .nothing (Program.met_of_poll waited) (Program.unmet_of_poll within looked)

structure Records (s : CredentialStep) (r : Resource) (token : String) (expiresAt : Timestamp) :
    Prop where
  place : r.slot = s.secretSlot
  token_eq : r.object.token? = some (Text.Base64.encodeText token)
  annotations_eq : r.object.metadata.annotations =
    some [(Conventions.expirationAnnotation, expiresAt.render)]

theorem token?_applied (s : CredentialStep) (credential : Manifest.Credential) :
    (s.applied credential).resource.object.token? =
      some (Text.Base64.encodeText credential.token) := by
  let value : Json := .str (Text.Base64.encodeText credential.token)
  have entries : (s.applied credential).resource.object.data =
      Fields.ofList [("data", .obj [(Conventions.tokenKey, value)]), ("type", .str "Opaque")] := rfl
  have data : (s.applied credential).resource.object.data.get? "data" =
      some (.obj [(Conventions.tokenKey, value)]) := by
    rw [entries, Fields.get?_ofList]
    simp
  rw [Object.token?, data]
  simp [Json.get?, Json.str?, value]

theorem records_of_desired {r : Resource} {token : String} {expiresAt : Timestamp}
    (desired : (s.applied ⟨token, expiresAt⟩).desired? = some r) : s.Records r token expiresAt where
  place := ApplyStep.slot_of_desired desired
  token_eq := (ApplyStep.sent_as_given (·.object.token?) (fun _ _ => rfl) desired).trans
    (s.token?_applied _)
  annotations_eq := ApplyStep.annotations_of_desired desired

namespace Issuance
variable {now : Timestamp} {last : List Event}

theorem requests (issuance : s.Issuance now last result) :
    ∃ granted rest, last =
        .call (.requestToken s.accountSlot.key ⟨Conventions.audiences, s.ttl⟩) granted :: rest ∧
      (∀ e ∈ rest, e.verb? = none ∨ e.verb? = some .apply) ∧
      ∀ source, granted = .error source → rest = [] ∧
        result = .fail .stop (.token s.accountSlot.ident source) := by
  cases issuance with
  | ungranted source => exact ⟨_, [], rfl, by simp, by rintro _ ⟨⟩; exact ⟨rfl, rfl⟩⟩
  | unowned lone => exact ⟨_, [], rfl, by simp, by simp⟩
  | refused error desired =>
    exact ⟨_, _, rfl, by simp [Event.verb?, Call.verb], by simp⟩
  | issued stored desired => exact ⟨_, _, rfl, by simp [Event.verb?, Call.verb], by simp⟩

theorem request_eq {account : Key} {request : TokenRequest} {answer : Except StoreError String}
    (issuance : s.Issuance now (before ++ .call (.requestToken account request) answer :: after)
      result) :
    before = [] ∧ account = s.accountSlot.key ∧ request = ⟨Conventions.audiences, s.ttl⟩ := by
  obtain ⟨granted, rest, same, others, _⟩ := issuance.requests
  cases before with
  | nil =>
    cases same
    exact ⟨rfl, rfl, rfl⟩
  | cons head before =>
    obtain ⟨_, rfl⟩ := List.cons.inj same
    have member : .call (.requestToken account request) answer ∈
        before ++ .call (.requestToken account request) answer :: after := by simp
    exact absurd member (Event.not_mem_of_only (by simp [Call.verb]) others)

theorem applies {r : Resource} {manager : String} {force : Bool}
    {answer : Except StoreError Object} (issuance : s.Issuance now last result)
    (same : last = before ++ .call (.apply r manager force) answer :: after) :
    ∃ token, before =
        [.call (.requestToken s.accountSlot.key ⟨Conventions.audiences, s.ttl⟩) (.ok token)] ∧
      s.Records r token (now.shift (reach s.ttl)) := by
  have member : .call (.apply r manager force) answer ∈ last := by simp [same]
  cases issuance with
  | ungranted source => simp at member
  | unowned lone => simp at member
  | @refused token sent error desired =>
    obtain ⟨⟨rfl, _⟩, _⟩ : (r = sent ∧ _) ∧ _ := by simpa using member
    rw [← List.singleton_append] at same
    obtain ⟨rfl, _⟩ := Event.eq_last same.symm (by simp)
    exact ⟨token, rfl, records_of_desired desired⟩
  | @issued token sent stored desired =>
    obtain ⟨⟨rfl, _⟩, _⟩ : (r = sent ∧ _) ∧ _ := by simpa using member
    rcases before with _ | ⟨first, _ | ⟨second, before⟩⟩
    · cases same
    · cases same
      exact ⟨token, rfl, records_of_desired desired⟩
    · obtain ⟨_, tail⟩ := List.cons.inj same
      obtain ⟨_, rest⟩ := List.cons.inj tail
      cases before with
      | nil => cases rest
      | cons third before => exact absurd (List.cons.inj rest).2 (by simp)

theorem issued_of_ok (issuance : s.Issuance now last .ok) :
    ∃ token r stored, (s.applied ⟨token, now.shift (reach s.ttl)⟩).desired? = some r ∧
      last = [.call (.requestToken s.accountSlot.key ⟨Conventions.audiences, s.ttl⟩) (.ok token),
        .call (.apply r Conventions.fieldManager true) (.ok stored), .measure .rotation] := by
  generalize ended : StepResult.ok = result at issuance
  cases issuance with
  | ungranted source => cases ended
  | unowned lone => cases ended
  | refused error desired =>
    have fine := congrArg StepResult.isOk ended
    rw [ApplyStep.isOk_conclude] at fine
    cases fine
  | issued stored desired => exact ⟨_, _, stored, desired, rfl⟩

end Issuance

/-- The account never appears, or a look or the request of a token fails. -/
def Hindered (s : CredentialStep) (events : List Event) : Prop :=
  (∀ e ∈ events, ¬ e.Finds s.accountSlot) ∨
  (∃ slot error, .call (.get slot) (.error error) ∈ events ∧ ∀ text, error ≠ .notFound text) ∨
  ∃ account request error, .call (.requestToken account request) (.error error) ∈ events

theorem Sees.hindered_later (sees : s.Sees seeing moment found)
    (hindered : s.Hindered (seeing ++ after)) :
    (∃ slot error, .call (.get slot) (.error error) ∈ after) ∨
      ∃ account request error, .call (.requestToken account request) (.error error) ∈ after := by
  rcases hindered with
    missing | ⟨slot, error, member, worse⟩ | ⟨account, request, error, member⟩
  · obtain ⟨e, member, finds⟩ := sees.finds_account
    exact absurd finds (missing e (List.mem_append_left _ member))
  · rcases List.mem_append.mp member with earlier | later
    · rcases sees.calm _ earlier with silent | ⟨_, ⟨text, same⟩ | ⟨object, same⟩⟩
      · cases silent
      · cases same
        exact absurd rfl (worse text)
      · cases same
    · exact Or.inl ⟨slot, error, later⟩
  · rcases List.mem_append.mp member with earlier | later
    · exact absurd earlier (Event.not_mem_of_only (by simp [Call.verb]) sees.looks)
    · exact Or.inr ⟨account, request, error, later⟩

theorem Sees.not_hindered (sees : s.Sees events moment found) : ¬ s.Hindered events := by
  intro hindered
  rw [← List.append_nil events] at hindered
  rcases sees.hindered_later hindered with ⟨_, _, member⟩ | ⟨_, _, _, member⟩
  · cases member
  · cases member

namespace Ended

theorem writes (ended : s.Ended events result) (member : e ∈ events) :
    e.Writeless ∨ e.verb? = some .apply := by
  cases ended with
  | stopped looks => exact Or.inl (looks e member).writeless
  | kept sees => exact Or.inl (sees.looks e member).writeless
  | renewed sees due issuance =>
    rcases List.mem_append.mp member with earlier | later
    · exact Or.inl (sees.looks e earlier).writeless
    · obtain ⟨granted, rest, rfl, others, _⟩ := issuance.requests
      rcases List.mem_cons.mp later with rfl | inRest
      · exact Or.inl (Or.inr (Or.inr rfl))
      · exact (others e inRest).imp_left Or.inl

theorem countP_le (ended : s.Ended events result) {verb : Verb} (other : verb ≠ .get) :
    events.countP (fun e => e.verb? = some verb) ≤ 1 := by
  cases ended with
  | stopped looks => simp [Event.countP_of_looks other looks]
  | kept sees => simp [Event.countP_of_looks other sees.looks]
  | renewed sees due issuance =>
    rw [List.countP_append, Event.countP_of_looks other sees.looks, Nat.zero_add]
    cases issuance <;> cases verb <;> simp [Event.verb?, Call.verb]

theorem issuance_of_call (ended : s.Ended events result) {c : Call} {answer : c.Answer}
    (other : c.verb ≠ .get) (same : events = before ++ .call c answer :: after) :
    ∃ seeing middle moment found, before = seeing ++ middle ∧ s.Sees seeing moment found ∧
      (∀ existing ∈ found, s.Lapses existing moment.wall) ∧
      s.Issuance moment.wall (middle ++ .call c answer :: after) result := by
  cases ended with
  | stopped looks =>
    have member : .call c answer ∈ events := by simp [same]
    exact absurd member (Event.not_mem_of_only other looks)
  | kept sees =>
    have member : .call c answer ∈ events := by simp [same]
    exact absurd member (Event.not_mem_of_only other sees.looks)
  | @renewed seeing last moment found _ sees due issuance =>
    rcases Event.split_append same with ⟨middle, early⟩ | ⟨middle, rfl, rfl⟩
    · have member : .call c answer ∈ seeing := by simp [early]
      exact absurd member (Event.not_mem_of_only other sees.looks)
    · exact ⟨seeing, middle, moment, found, rfl, sees, due, issuance⟩

theorem kept_iff (ended : s.Ended events result) :
    (result = .ok ∧ ∀ e ∈ events, e.Writeless) ↔
      ∃ seeing moment existing, seeing <+: events ∧ s.Sees seeing moment (some existing) ∧
        ¬ s.Lapses existing moment.wall := by
  cases ended with
  | stopped looks blind stops =>
    constructor
    · rintro ⟨rfl, _⟩
      cases stops
    · rintro ⟨seeing, moment, existing, within, sees, _⟩
      exact absurd sees (blind seeing moment existing within)
  | kept sees good =>
    constructor
    · intro _
      exact ⟨_, _, _, List.prefix_refl _, sees, good⟩
    · intro _
      exact ⟨rfl, fun e member => (sees.looks e member).writeless⟩
  | @renewed seeing last moment found _ sees due issuance =>
    constructor
    · rintro ⟨rfl, writeless⟩
      obtain ⟨token, r, stored, _, rfl⟩ := issuance.issued_of_ok
      have applied := writeless (.call (.apply r Conventions.fieldManager true) (.ok stored))
        (by simp)
      exact absurd applied Event.not_writeless_apply
    · rintro ⟨seeing', moment', existing, within, again, good⟩
      obtain ⟨granted, rest, rfl, others, _⟩ := issuance.requests
      have past : ∀ e ∈ (Event.call (.requestToken s.accountSlot.key ⟨_, s.ttl⟩) granted :: rest),
          ¬ e.Finds s.secretSlot := by
        rintro e member ⟨object, rfl⟩
        rcases List.mem_cons.mp member with same | inRest
        · cases same
        · exact Event.not_mem_of_only (by simp [Call.verb]) others inRest
      obtain ⟨rfl, same⟩ := sees.unique again within past
      exact absurd (due existing same) good

theorem stops_of_hindered (ended : s.Ended events result) (hindered : s.Hindered events) :
    result.action = .stop ∧ result.error.isSome = true ∧ ∀ e ∈ events, e.Writeless := by
  cases ended with
  | stopped looks blind stops fails =>
    exact ⟨stops, fails, fun e member => (looks e member).writeless⟩
  | kept sees good => exact absurd hindered sees.not_hindered
  | @renewed seeing last moment found _ sees due issuance =>
    obtain ⟨granted, rest, rfl, others, ungranted⟩ := issuance.requests
    -- an issue looks for nothing, so it is the request that failed
    obtain ⟨source, refused⟩ : ∃ source, granted = .error source := by
      rcases sees.hindered_later hindered with
        ⟨slot, error, member⟩ | ⟨account, request, error, member⟩
      · rcases List.mem_cons.mp member with same | inRest
        · cases same
        · exact absurd inRest (Event.not_mem_of_only (by simp [Call.verb]) others)
      · rcases List.mem_cons.mp member with same | inRest
        · cases same
          exact ⟨error, rfl⟩
        · exact absurd inRest (Event.not_mem_of_only (by simp [Call.verb]) others)
    obtain ⟨rfl, rfl⟩ := ungranted source refused
    refine ⟨rfl, rfl, ?_⟩
    intro e member
    rcases List.mem_append.mp member with earlier | later
    · exact (sees.looks e earlier).writeless
    · rw [List.mem_singleton.mp later]
      exact Or.inr (Or.inr rfl)

end Ended

/-- What one call of a step that wants its credential does. -/
structure Decides (s : CredentialStep) (t : Timeline) (result : StepResult) : Prop where
  one_request : t.events.countP (fun e => e.verb? = some .requestToken) ≤ 1
  /-- A token is requested after the account was found, and no secret or one that lapses. -/
  requested : ∀ before account request answer after,
    t.events = before ++ .call (.requestToken account request) answer :: after →
      account = s.accountSlot.key ∧ request = ⟨Conventions.audiences, s.ttl⟩ ∧
        ∃ moment found, s.Sees before moment found ∧
          ∀ existing ∈ found, s.Lapses existing moment.wall
  only_apply : ∀ e ∈ t.events, e.Writeless ∨ e.verb? = some .apply
  one_apply : t.events.countP (fun e => e.verb? = some .apply) ≤ 1
  /-- What is applied is the secret with the token just returned. It expires a life of the token
  after now, and not later than that after the request. -/
  applied : ∀ before moment r manager force answer after,
    t = before ++ (moment, .call (.apply r manager force) answer) :: after →
      ∃ (earlier : Timeline) (asked : Moment) (token : String) (now : Moment)
          (found : Option Object),
        before = earlier ++ [(asked, .call (.requestToken s.accountSlot.key
          ⟨Conventions.audiences, s.ttl⟩) (.ok token))] ∧
        s.Sees earlier.events now found ∧
        s.Records r token (now.wall.shift (reach s.ttl)) ∧
        now.wall.shift (reach s.ttl) ≤ asked.wall.shift (reach s.ttl)
  kept_iff : (result = .ok ∧ ∀ e ∈ t.events, e.Writeless) ↔
    ∃ seeing moment existing, seeing <+: t.events ∧ s.Sees seeing moment (some existing) ∧
      ¬ s.Lapses existing moment.wall
  failed : s.Hindered t.events → result.action = .stop ∧ result.error.isSome = true ∧
    (∀ e ∈ t.events, e.Writeless) ∧
    ∀ c c' : Cluster, c.Serves t.events c' → c'.find? s.secretSlot = c.find? s.secretSlot

theorem expires_le {t later : Timeline} {asked : Moment} {e : Event}
    (clocks : (t ++ (asked, e) :: later).OnClocks) (sees : s.Sees t.events moment found) :
    moment.wall.shift (reach s.ttl) ≤ asked.wall.shift (reach s.ttl) := by
  obtain ⟨within, last, follows⟩ := clocks.split
  obtain ⟨member, clock⟩ := within.reading sees.clock_mem
  have order := (follows _ member (asked, e) List.mem_cons_self).wall
  exact Timestamp.shift_mono clock (last.calendar _ List.mem_cons_self) order _

theorem decides_of_enabled {t : Timeline} (clocks : t.OnClocks) (wanted : s.enabled = true)
    (run : s.run.Runs t.events result) : s.Decides t result := by
  have ended := ended_of_run clocks wanted run
  refine ⟨ended.countP_le (by decide), ?_, fun e => ended.writes, ended.countP_le (by decide), ?_,
    ended.kept_iff, ?_⟩
  · intro before account request answer after same
    obtain ⟨seeing, middle, moment, found, rfl, sees, due, issuance⟩ :=
      ended.issuance_of_call (by simp [Call.verb]) same
    obtain ⟨rfl, account, request⟩ := issuance.request_eq
    exact ⟨account, request, moment, found, by simpa using sees, due⟩
  · intro before at_ r manager force answer after same
    have events : t.events = Timeline.events before ++
        .call (.apply r manager force) answer :: Timeline.events after := by
      simp [same, Timeline.events]
    obtain ⟨seeing, middle, moment, found, own, sees, _, issuance⟩ :=
      ended.issuance_of_call (by simp [Call.verb]) events
    obtain ⟨token, rfl, records⟩ := issuance.applies rfl
    obtain ⟨earlier, rest, rfl, rfl, requested⟩ := List.map_eq_append_iff.mp own
    obtain ⟨⟨asked, _⟩, rfl, rfl⟩ := List.map_eq_singleton_iff.mp requested
    subst same
    rw [List.append_assoc] at clocks
    exact ⟨earlier, asked, token, moment, found, rfl, sees, records, expires_le clocks sees⟩
  · intro hindered
    obtain ⟨stops, fails, writeless⟩ := ended.stops_of_hindered hindered
    exact ⟨stops, fails, writeless,
      fun c c' serves => (serves.alike_of_writeless writeless).find? s.secretSlot⟩

/-- What one call of the step does, whatever it is answered. Without credentials it deletes its
secret, and one that is gone already is as good. -/
theorem decides_of_run {t : Timeline} (clocks : t.OnClocks) (run : s.run.Runs t.events result) :
    (s.enabled = true → s.Decides t result) ∧
    (s.enabled = false → ∃ answer, t.events = [.call (.delete s.secretSlot) answer] ∧
      (result = .ok ↔ Deleted answer)) := by
  refine ⟨fun wanted => decides_of_enabled clocks wanted run, fun unwanted => ?_⟩
  rw [CredentialStep.run, if_pos (by simp [unwanted])] at run
  obtain ⟨answer, same, rfl⟩ := DeleteStep.runs_iff.mp run
  refine ⟨answer, same, ?_, DeleteStep.conclude_of_deleted _⟩
  intro fine
  unfold DeleteStep.conclude at fine
  split at fine
  · exact Or.inl rfl
  · exact Or.inr ⟨_, rfl⟩
  · cases fine

end CredentialStep

namespace CredentialLoops

/-- At noon the issuer replaces a secret that does not say when it expires. -/
theorem rotation_decides :
    ∃ t : Timeline, t.OnClocks ∧ issuer.run.Runs t.events .ok ∧ issuer.enabled = true ∧
      issuer.Decides t .ok ∧ ∃ e ∈ t.events, ¬ e.Writeless := by
  let events := rotation account fresh.object ++ [.measure .rotation]
  have clocks : (Timeline.frozen noon events).OnClocks :=
    Timeline.onClocks_frozen onClock_noon (by simp [events, rotation]) (by simp [events, rotation])
  have run : issuer.run.Runs (Timeline.frozen noon events).events .ok := by
    rw [Timeline.events_frozen]
    exact rotation_runs account fresh.object
  refine ⟨_, clocks, run, rfl, (CredentialStep.decides_of_run clocks run).1 rfl,
    .call (.apply fresh Conventions.fieldManager true) (.ok fresh.object), ?_,
    Event.not_writeless_apply⟩
  simp [Timeline.events_frozen, events, rotation]

def timed (text : String) : Object :=
  { untimed with metadata :=
      { untimed.metadata with annotations := some [(Conventions.expirationAnnotation, text)] } }

def keeping (moment : Moment) (account existing : Object) : List Event :=
  [.clock moment, .call (.get issuer.accountSlot) (.ok account), .clock moment, .clock moment,
    .call (.get issuer.secretSlot) (.ok existing)]

theorem writeless_keeping (moment : Moment) (account existing : Object) :
    ∀ e ∈ keeping moment account existing, e.Writeless := by
  simp [keeping, Event.Writeless, Event.verb?, Call.verb]

def tooLong : Duration := .ofSecs 9223372036854776

def ragged : Moment := ⟨⟨1792152060, 500000000⟩, ⟨0⟩⟩

def shortLived : Resource :=
  (Manifest.credentialSecret issuer.blueprint ⟨"token", noon.wall⟩).resource.withOwner reference

def renewal : List Event :=
  [.clock noon, .call (.get issuer.accountSlot) (.ok account), .clock noon, .clock noon,
    .call (.get issuer.secretSlot) (.ok stored),
    .call (.requestToken issuer.accountSlot.key ⟨Conventions.audiences, tooLong⟩) (.ok "token"),
    .call (.apply shortLived Conventions.fieldManager true) (.ok shortLived.object),
    .measure .rotation]

/-- A secret is kept although it expires within the buffer, if the buffer is too long or the secret
expires inside a leap second at the end of the buffer; and one is issued that expires at once, if
its tokens live too long. -/
theorem spans_cut_short :
    (∃ expiresAt, Expiry.recorded (timed "2026-10-16T13:00:00Z").metadata.annotations =
        .ok expiresAt ∧ expiresAt ≤ noon.wall.add tooLong ∧
      { issuer with expiryBuffer := tooLong }.run.Runs
        (keeping noon account (timed "2026-10-16T13:00:00Z")) .ok ∧
      ∀ e ∈ keeping noon account (timed "2026-10-16T13:00:00Z"), e.Writeless) ∧
    (∃ expiresAt, Expiry.recorded (timed "2026-10-16T12:10:60.9Z").metadata.annotations =
        .ok expiresAt ∧ expiresAt ≤ ragged.wall.add issuer.expiryBuffer ∧
      issuer.run.Runs (keeping ragged account (timed "2026-10-16T12:10:60.9Z")) .ok ∧
      ∀ e ∈ keeping ragged account (timed "2026-10-16T12:10:60.9Z"), e.Writeless) ∧
    Expiry.recorded shortLived.object.metadata.annotations = .ok noon.wall ∧
      noon.wall ≠ noon.wall.add tooLong ∧ { issuer with ttl := tooLong }.run.Runs renewal .ok := by
  refine ⟨⟨⟨1792155600, 0⟩, by rfl, by decide, ?_, writeless_keeping _ _ _⟩,
    ⟨⟨1792152659, 1900000000⟩, by rfl, by decide, ?_, writeless_keeping _ _ _⟩,
    by rfl, by decide, ?_⟩
  · exact .clock _ (.call _ (.clock _ (.clock _ (.call _ (.done _)))))
  · exact .clock _ (.call _ (.clock _ (.clock _ (.call _ (.done _)))))
  · exact .clock _ (.call _ (.clock _ (.clock _ (.call _ (.call _ (.call _ (.measure _
      (.done _))))))))

end CredentialLoops
end AgentOperator
