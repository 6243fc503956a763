import AgentOperator.Proofs.ExpiryTime

/-!
The expiry decision in whole numbers. The doubled interval is cut, the lead is cut again to what a
signed span can hold, and what would lie before the calendar counts as its first instant. Outside
leap seconds none of this shows: the decision is that of a subtraction of unbounded integers, since
whatever is cut is far longer than the calendar.
-/
namespace AgentOperator
namespace Timestamp
variable {a b t now : Timestamp}

def endTotal : Int := (lastDay + 1) * secondsPerDay * nanosPerSecond

theorem OnClock.calm (clock : t.OnClock) : t.isLeap = false := by
  have subsecond := clock.2
  simp [isLeap]
  omega

theorem total_ofTotal (total : Int) : (ofTotal total).total = total := by
  unfold ofTotal Timestamp.total nanosPerSecond
  dsimp only
  omega

theorem ofTotal_total (calm : t.isLeap = false) : ofTotal t.total = t := by
  obtain ⟨seconds, nanos⟩ := t
  unfold isLeap ofTotal Timestamp.total nanosPerSecond at *
  simp only [decide_eq_false_iff_not, Timestamp.mk.injEq] at *
  constructor <;> omega

theorem le_iff_total (calm : a.isLeap = false) (calmToo : b.isLeap = false) :
    a ≤ b ↔ a.total ≤ b.total := by
  have order := le_ofTotal_iff a b.total
  rw [ofTotal_total calmToo, calm] at order
  simpa using order

theorem since_eq_total (calm : t.isLeap = false) (calmToo : now.isLeap = false) :
    t.since now = t.total - now.total := by
  rw [since_of_calm calm, if_neg (by simp [calmToo])]
  unfold Timestamp.total
  rw [Int.add_zero, Int.sub_mul]
  omega

theorem onClock_ofTotal_iff (total : Int) :
    (ofTotal total).OnClock ↔ earliest.total ≤ total ∧ total < endTotal := by
  have start : earliest.total = earliest.seconds * 1000000000 := by decide
  rw [start]
  unfold OnClock InCalendar ofTotal endTotal nanosPerSecond
  generalize earliest.seconds = first
  generalize (lastDay + 1) * secondsPerDay = last
  dsimp only
  omega

theorem nanos_ofTotal_lt (total : Int) : (ofTotal total).nanos < nanosPerSecond := by
  unfold ofTotal nanosPerSecond
  dsimp only
  omega

theorem OnClock.bounds (clock : t.OnClock) : earliest.total ≤ t.total ∧ t.total < endTotal := by
  rw [← onClock_ofTotal_iff, ofTotal_total clock.calm]
  exact clock

theorem onClock_earliest : earliest.OnClock := by decide

theorem OnClock.shift?_eq_some_iff (clock : t.OnClock) (nanos : Int) :
    t.shift? nanos = some (t.shift nanos) ↔
      earliest.total ≤ t.total + nanos ∧ t.total + nanos < endTotal := by
  have fine : (ofTotal (t.total + nanos)).nanos < nanosPerSecond := nanos_ofTotal_lt _
  rw [shift?, shift_forward clock, ← onClock_ofTotal_iff]
  simp [OnClock, fine]

/-- Nothing that is recorded comes as near to the start of the calendar. -/
def longestLead : Int := (firstRecord - earliest.seconds) * nanosPerSecond

theorem Recordable.shift?_back (recordable : t.Recordable) {lead : Nat}
    (short : (lead : Int) ≤ longestLead) : t.shift? (-lead) = some (t.shift (-lead)) := by
  obtain ⟨late, early, fine⟩ := recordable
  have stays : (t.shift (-lead)).InCalendar := by
    rw [shift_back fine]
    unfold InCalendar longestLead at *
    have first : earliest.seconds ≤ firstRecord := by decide
    generalize earliest.seconds = start at *
    generalize (lastDay + 1) * secondsPerDay = last at *
    unfold isLeap ofTotal Timestamp.total nanosPerSecond at *
    simp only [decide_eq_true_eq]
    split <;> dsimp only <;> omega
  rw [shift?, if_pos stays]

end Timestamp

namespace Expiry
variable {annotations : Option (Fields String)} {now expiresAt : Timestamp} {refresh : Duration}

def dueAt (expiresAt : Timestamp) (refresh : Duration) : Int :=
  expiresAt.total - 2 * refresh.nanos

/-- A lead that is cut reaches from the end of the calendar to before its start. -/
theorem calendar_lt_longestSpan : Timestamp.endTotal - Timestamp.earliest.total < longestSpan := by
  decide

theorem total_lt_of_recordable (recordable : expiresAt.Recordable)
    (calm : expiresAt.isLeap = false) : expiresAt.total < Timestamp.endTotal := by
  have early := recordable.early
  unfold Timestamp.isLeap Timestamp.total Timestamp.endTotal Timestamp.nanosPerSecond at *
  generalize (Timestamp.lastDay + 1) * Timestamp.secondsPerDay = last at *
  simp only [decide_eq_false_iff_not] at calm
  omega

/-- No cut shows but that at the start of the calendar. -/
theorem trigger_of_calm (recordable : expiresAt.Recordable) (calm : expiresAt.isLeap = false)
    (refresh : Duration) :
    trigger expiresAt refresh =
      if Timestamp.earliest.total ≤ dueAt expiresAt refresh then .ofTotal (dueAt expiresAt refresh)
      else .earliest := by
  have within := total_lt_of_recordable recordable calm
  have far := calendar_lt_longestSpan
  have moved : expiresAt.shift (-(lead refresh)) = .ofTotal (expiresAt.total - lead refresh) := by
    rw [Timestamp.shift_back recordable.fine, if_neg (by simp [calm])]
  have limit : (longestSpan.toNat : Int) = longestSpan := by decide
  rw [trigger_eq, Timestamp.shift?, moved]
  by_cases early : Timestamp.earliest.total ≤ dueAt expiresAt refresh
  · have whole : lead refresh = 2 * refresh.nanos := by
      unfold lead dueAt at *
      omega
    have stays : (Timestamp.ofTotal (dueAt expiresAt refresh)).OnClock := by
      rw [Timestamp.onClock_ofTotal_iff]
      unfold dueAt at *
      omega
    have same : expiresAt.total - lead refresh = dueAt expiresAt refresh := by
      rw [whole]
      rfl
    rw [same, if_pos stays.1, if_pos early]
    rfl
  · have leaves : ¬ (Timestamp.ofTotal (expiresAt.total - lead refresh)).InCalendar := by
      intro inside
      have bounds := (Timestamp.onClock_ofTotal_iff _).mp ⟨inside, Timestamp.nanos_ofTotal_lt _⟩
      unfold lead dueAt at *
      omega
    rw [if_neg leaves, if_neg early]
    rfl

theorem onClock_trigger (recordable : expiresAt.Recordable) (calm : expiresAt.isLeap = false)
    (refresh : Duration) : (trigger expiresAt refresh).OnClock := by
  have within := total_lt_of_recordable recordable calm
  rw [trigger_of_calm recordable calm]
  split
  · next early =>
    rw [Timestamp.onClock_ofTotal_iff]
    unfold dueAt at *
    omega
  · exact Timestamp.onClock_earliest

theorem since_trigger (recordable : expiresAt.Recordable) (calm : expiresAt.isLeap = false)
    (clock : now.OnClock) (refresh : Duration) :
    (trigger expiresAt refresh).since now = dueAt expiresAt refresh - now.total ∨
      (trigger expiresAt refresh).since now ≤ 0 ∧ dueAt expiresAt refresh - now.total ≤ 0 := by
  have started := clock.bounds.1
  rw [Timestamp.since_eq_total (onClock_trigger recordable calm refresh).calm clock.calm,
    trigger_of_calm recordable calm]
  split
  · exact Or.inl (by rw [Timestamp.total_ofTotal])
  · next early => exact Or.inr (by omega)

theorem decide_of_recorded (record : recorded annotations = .ok expiresAt)
    (calm : expiresAt.isLeap = false) (clock : now.OnClock) (refresh : Duration) :
    decide annotations now refresh =
      if 0 < dueAt expiresAt refresh - now.total then
        .recheck ⟨(dueAt expiresAt refresh - now.total).toNat⟩
      else .delete .expiring := by
  unfold decide
  rw [record]
  dsimp only
  rcases since_trigger (recordable_of_recorded record) calm clock refresh with whole | ⟨cut, past⟩
  · rw [whole]
  · rw [if_neg (by omega), if_neg (by omega)]

/-- Every value on the way to the decision has a place in the calendar or among signed spans. -/
structure Representable (expiresAt now : Timestamp) (refresh : Duration) : Prop where
  doubled : refresh.double ≤ Duration.longest
  lead : ((span? refresh.double).getD longestSpan).natAbs ≤ longestSpan
  trigger : (trigger expiresAt refresh).OnClock
  remaining : ((Expiry.trigger expiresAt refresh).since now).natAbs ≤ longestSpan

theorem representable_of_calm (recordable : expiresAt.Recordable) (calm : expiresAt.isLeap = false)
    (clock : now.OnClock) (refresh : Duration) : Representable expiresAt now refresh := by
  have onClock := onClock_trigger recordable calm refresh
  refine ⟨Nat.min_le_right _ _, ?_, onClock, ?_⟩
  · unfold span?
    have positive : 0 ≤ longestSpan := by decide
    split
    · rw [Option.getD_some]
      omega
    · rw [Option.getD_none]
      omega
  · have far := calendar_lt_longestSpan
    have bounds := onClock.bounds
    have boundsNow := clock.bounds
    rw [Timestamp.since_eq_total onClock.calm clock.calm]
    omega

/-- The decision is that of unbounded integers, on whatever way it is come by: what is due stays
due, and what is not is due after exactly the time that was told. -/
theorem decide_as_integers (record : recorded annotations = .ok expiresAt)
    (calm : expiresAt.isLeap = false) (clock : now.OnClock) (refresh : Duration) :
    Representable expiresAt now refresh ∧
    decide annotations now refresh =
      (if 0 < dueAt expiresAt refresh - now.total then
        .recheck ⟨(dueAt expiresAt refresh - now.total).toNat⟩
      else .delete .expiring) ∧
    (∀ later reason, later.OnClock → now ≤ later →
      decide annotations now refresh = .delete reason →
        decide annotations later refresh = .delete reason) ∧
    ∀ after, decide annotations now refresh = .recheck after →
      (∀ later, later.OnClock → ¬ now.add after ≤ later →
        ∃ rest, decide annotations later refresh = .recheck rest ∧
          (rest.nanos : Int) = after.nanos - (later.total - now.total)) ∧
      (now.add after).OnClock ∧ decide annotations (now.add after) refresh = .delete .expiring := by
  have recordable := recordable_of_recorded record
  have decides {now : Timestamp} (clock : now.OnClock) :=
    decide_of_recorded record calm clock refresh
  refine ⟨representable_of_calm recordable calm clock refresh, decides clock, ?_, ?_⟩
  · intro later reason laterClock order decided
    rw [Timestamp.le_iff_total clock.calm laterClock.calm] at order
    rw [decides clock] at decided
    rw [decides laterClock]
    split at decided
    · cases decided
    · rw [if_neg (by omega)]
      exact decided
  · intro after decided
    rw [decides clock] at decided
    split at decided
    case isFalse => cases decided
    next soon =>
      obtain rfl := ExpiryDecision.recheck.inj decided
      have there : now.add ⟨(dueAt expiresAt refresh - now.total).toNat⟩ =
          .ofTotal (dueAt expiresAt refresh) := by
        rw [Timestamp.add, Timestamp.shift_forward clock]
        congr 1
        dsimp only
        omega
      have dueClock : (Timestamp.ofTotal (dueAt expiresAt refresh)).OnClock := by
        have started := clock.bounds.1
        have within := total_lt_of_recordable recordable calm
        rw [Timestamp.onClock_ofTotal_iff]
        unfold dueAt at *
        omega
      rw [there]
      refine ⟨?_, dueClock, ?_⟩
      · intro later laterClock early
        rw [Timestamp.le_iff_total dueClock.calm laterClock.calm, Timestamp.total_ofTotal] at early
        refine ⟨_, (decides laterClock).trans (if_pos (by omega)), ?_⟩
        dsimp only
        omega
      · rw [decides dueClock, Timestamp.total_ofTotal, if_neg (by omega)]

def atOne : Option (Fields String) :=
  some [(Conventions.expirationAnnotation, "2026-10-16T13:00:00.000000001Z")]

def atNoon : Timestamp := ⟨1792152000, 0⟩

/-- At noon it is not due for forty minutes with an interval of ten, and due with the longest. -/
theorem atOne_due_after_forty_minutes :
    recorded atOne = .ok ⟨1792155600, 1⟩ ∧
      decide atOne atNoon (.ofSecs 600) = .recheck ⟨2400000000001⟩ ∧
      decide atOne (atNoon.add ⟨2400000000001⟩) (.ofSecs 600) = .delete .expiring ∧
      decide atOne atNoon .longest = .delete .expiring := by
  have record : recorded atOne = .ok ⟨1792155600, 1⟩ := by rfl
  have clock : atNoon.OnClock := by decide
  have law := decide_as_integers record (by decide) clock
  have told : decide atOne atNoon (.ofSecs 600) = .recheck ⟨2400000000001⟩ := (law _).2.1
  exact ⟨record, told, ((law _).2.2.2 _ told).2.2, (law .longest).2.1⟩

end Expiry
end AgentOperator
