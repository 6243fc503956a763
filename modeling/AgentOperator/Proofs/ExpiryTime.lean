import AgentOperator.Credential.Expiry
import AgentOperator.Proofs.Calendar

/-!
When a recorded expiration is near. Instants are ordered as the calendar has them, so the one inside
a leap second comes before the second after it. A deletion that is decided on is due: the expiration
is at most two refresh intervals away, also if it is recorded inside a leap second or the interval
is so long that the lead is cut or leaves the calendar. What is due stays due.
-/
namespace AgentOperator
namespace Timestamp

/-- What a clock can show: an instant of the calendar that is in no leap second. -/
def OnClock (t : Timestamp) : Prop := t.InCalendar ∧ t.nanos < nanosPerSecond

instance (t : Timestamp) : Decidable t.OnClock := by unfold OnClock; infer_instance

/-- Nothing is recorded before this second: years are written without a sign, and no offset is as
long as a year. -/
def firstRecord : Int := Date.toDays ⟨-1, 1, 1⟩ * secondsPerDay

/-- What a record can say: an instant before the end of the calendar, and long after its start. -/
structure Recordable (t : Timestamp) : Prop where
  late : firstRecord ≤ t.seconds
  early : t.seconds < (lastDay + 1) * secondsPerDay
  fine : t.nanos < 2 * nanosPerSecond

theorem le_ofTotal_iff (t : Timestamp) (total : Int) :
    t ≤ ofTotal total ↔
      if t.isLeap then (t.seconds + 1) * nanosPerSecond ≤ total else t.total ≤ total := by
  show (t.seconds < total / nanosPerSecond ∨ t.seconds = total / nanosPerSecond ∧
    t.nanos ≤ (total % nanosPerSecond).toNat) ↔ _
  unfold isLeap Timestamp.total nanosPerSecond
  split <;> simp at * <;> omega

theorem shift_forward {t : Timestamp} (clock : t.OnClock) (nanos : Int) :
    t.shift nanos = ofTotal (t.total + nanos) := by
  have steady : t.isLeap = false := by
    have := clock.2
    simp [isLeap]
    omega
  simp [shift, steady]

theorem shift_back {t : Timestamp} (fine : t.nanos < 2 * nanosPerSecond) (lead : Nat) :
    t.shift (-lead) = if t.isLeap ∧ lead < nanosPerSecond then ⟨t.seconds, t.nanos - lead⟩
      else ofTotal (t.total - lead) := by
  have whole : (-(lead : Int)).tdiv nanosPerSecond = -((lead / nanosPerSecond : Nat) : Int) := by
    rw [Int.neg_tdiv, Int.ofNat_tdiv]
  have part : (-(lead : Int)).tmod nanosPerSecond = -((lead % nanosPerSecond : Nat) : Int) := by
    rw [Int.neg_tmod, Int.ofNat_tmod]
  rw [shift, whole, part]
  unfold isLeap Timestamp.total nanosPerSecond at *
  by_cases leap : 1000000000 ≤ t.nanos
  · rw [if_pos (by simpa using leap), if_neg (by omega)]
    by_cases inside : lead < 1000000000
    · rw [if_neg (by omega), if_pos ⟨by simpa using leap, inside⟩]
      congr 1
      omega
    · rw [if_pos (by omega), if_neg (by simp [inside])]
      congr 1
      omega
  · rw [if_neg (by simpa using leap), if_neg (by simp [leap])]
    congr 1

theorem since_nonpos_iff {t now : Timestamp} (clock : now.OnClock) :
    t.since now ≤ 0 ↔
      if t.isLeap ∧ t.seconds % secondsPerDay < now.seconds % secondsPerDay then
        t.total - nanosPerSecond ≤ now.total
      else t.total ≤ now.total := by
  have steady : now.isLeap = false := by
    have := clock.2
    simp [isLeap]
    omega
  have daily (a b : Int) : (if b < a then 0 else if a < b then if t.isLeap then -1 else 0 else 0) =
      if t.isLeap ∧ a < b then (-1 : Int) else 0 := by
    cases t.isLeap with
    | false => simp
    | true =>
      simp only [if_true, true_and]
      omega
  unfold since Timestamp.total nanosPerSecond
  simp only [steady, Bool.false_eq_true, if_false, daily]
  split <;> omega

theorem shift_whole {t : Timestamp} (fine : t.nanos < 2 * nanosPerSecond) {secs : Nat}
    (ahead : 0 < secs) :
    t.shift (Duration.ofSecs secs).nanos = ⟨t.seconds + secs, t.nanos % nanosPerSecond⟩ := by
  have whole : ((Duration.ofSecs secs).nanos : Int).tdiv nanosPerSecond = secs := by
    rw [← Int.ofNat_tdiv]
    simp only [Duration.ofSecs, Duration.nanosPerSecond, nanosPerSecond]
    omega
  unfold shift
  dsimp only
  rw [whole, if_pos (Or.inl (by omega))]
  unfold ofTotal total isLeap Duration.ofSecs Duration.nanosPerSecond nanosPerSecond at *
  by_cases leap : 1000000000 ≤ t.nanos
  · simp only [leap, decide_true, if_true, Timestamp.mk.injEq]
    constructor <;> omega
  · simp only [leap, decide_false, Bool.false_eq_true, if_false, Timestamp.mk.injEq]
    constructor <;> omega

theorem since_of_calm {t : Timestamp} (calm : t.isLeap = false) (now : Timestamp) :
    t.since now = (t.seconds - now.seconds +
      if now.isLeap ∧ now.seconds % secondsPerDay < t.seconds % secondsPerDay then 1 else 0) *
        nanosPerSecond + ((t.nanos : Int) - now.nanos) := by
  unfold since
  simp only [calm, Bool.false_eq_true, if_false, ite_self]
  by_cases leap : now.isLeap <;> simp [leap]

theorem calm_ofTotal (total : Int) : (ofTotal total).isLeap = false := by
  unfold ofTotal isLeap nanosPerSecond
  simp only [decide_eq_false_iff_not]
  omega

theorem foldl_digits_lt {digits : List Char} (decimal : digits.all isDigit) (value : Nat) :
    digits.foldl (fun value c => value * 10 + digitValue c) value <
      (value + 1) * Nat.pow 10 digits.length := by
  induction digits generalizing value with
  | nil => exact Nat.lt_of_lt_of_eq (Nat.lt_succ_self value) (Nat.mul_one _).symm
  | cons c rest ih =>
    simp only [List.all_cons, Bool.and_eq_true] at decimal
    have small : digitValue c < 10 := by
      have bounds : c ≤ '9' := by
        have := decimal.1
        simp [isDigit] at this
        exact this.2
      have : c.toNat ≤ 57 := bounds
      unfold digitValue
      omega
    have wide : value * 10 + digitValue c + 1 ≤ (value + 1) * 10 := by omega
    calc rest.foldl (fun value c => value * 10 + digitValue c) (value * 10 + digitValue c)
        < (value * 10 + digitValue c + 1) * Nat.pow 10 rest.length := ih decimal.2 _
      _ ≤ (value + 1) * 10 * Nat.pow 10 rest.length := Nat.mul_le_mul_right _ wide
      _ = (value + 1) * Nat.pow 10 (rest.length + 1) := by
          rw [Nat.mul_assoc, Nat.mul_comm 10]
          rfl

theorem number_lt {digits : List Char} (decimal : digits.all isDigit) :
    number digits < Nat.pow 10 digits.length :=
  Nat.lt_of_lt_of_eq (foldl_digits_lt decimal 0) (Nat.one_mul _)

theorem lt_of_readDigits {count value : Nat} {chars rest : List Char}
    (read : readDigits? count chars = some (value, rest)) : value < Nat.pow 10 count := by
  unfold readDigits? at read
  dsimp only at read
  split at read
  · next full =>
    cases read
    have := number_lt full.2
    rwa [full.1] at this
  · cases read

theorem lt_of_readFraction {value : Nat} {chars rest : List Char}
    (read : readFraction? chars = some (value, rest)) : value < nanosPerSecond := by
  unfold readFraction? at read
  split at read
  · dsimp only at read
    split at read
    · cases read
    · next tail _ =>
      cases read
      have decimal : ((tail.takeWhile isDigit).take 9).all isDigit := by
        simp only [List.all_eq_true]
        intro c member
        exact List.all_eq_true.mp (List.all_takeWhile) c (List.mem_of_mem_take member)
      have short : ((tail.takeWhile isDigit).take 9).length ≤ 9 := List.length_take_le _ _
      calc _ < Nat.pow 10 _ * Nat.pow 10 (9 - ((tail.takeWhile isDigit).take 9).length) :=
            Nat.mul_lt_mul_of_pos_right (number_lt decimal) (Nat.pow_pos (by decide))
        _ = Nat.pow 10 (_ + (9 - _)) := (Nat.pow_add 10 _ _).symm
        _ = nanosPerSecond := by
            rw [Nat.add_sub_cancel' short]
            rfl
  · cases read
    decide

theorem bounds_of_readOffset {offset : Int} {chars rest : List Char}
    (read : readOffset? chars = some (offset, rest)) :
    -secondsPerDay < offset ∧ offset < secondsPerDay := by
  unfold readOffset? at read
  split at read
  · cases read
  · next c tail =>
    split at read
    · cases read
      decide
    · simp only [Option.bind_eq_bind, Option.bind_some, Option.bind_none] at read
      split at read
      case' isFalse => split at read
      all_goals simp only [Option.bind_eq_some_iff, Prod.exists, reduceCtorEq] at read
      all_goals
        obtain ⟨hours, _, _, _, _, minutes, _, _, read⟩ := read
        split at read
        · cases read
          unfold secondsPerDay
          omega
        · cases read

theorem recordable_of_read {text : String} {t : Timestamp} (read : read? text = some t) :
    t.Recordable := by
  unfold read? at read
  obtain ⟨⟨year, afterYear⟩, yearRead, read⟩ := Option.bind_eq_some_iff.mp read
  obtain ⟨_, _, read⟩ := Option.bind_eq_some_iff.mp read
  obtain ⟨⟨month, _⟩, _, read⟩ := Option.bind_eq_some_iff.mp read
  obtain ⟨_, _, read⟩ := Option.bind_eq_some_iff.mp read
  obtain ⟨⟨day, _⟩, _, read⟩ := Option.bind_eq_some_iff.mp read
  obtain ⟨_, _, read⟩ := Option.bind_eq_some_iff.mp read
  obtain ⟨⟨hour, _⟩, _, read⟩ := Option.bind_eq_some_iff.mp read
  obtain ⟨_, _, read⟩ := Option.bind_eq_some_iff.mp read
  obtain ⟨⟨minute, _⟩, _, read⟩ := Option.bind_eq_some_iff.mp read
  obtain ⟨_, _, read⟩ := Option.bind_eq_some_iff.mp read
  obtain ⟨⟨second, afterSecond⟩, _, read⟩ := Option.bind_eq_some_iff.mp read
  obtain ⟨⟨fraction, afterFraction⟩, fractionRead, read⟩ := Option.bind_eq_some_iff.mp read
  obtain ⟨⟨offset, rest⟩, offsetRead, read⟩ := Option.bind_eq_some_iff.mp read
  dsimp only at read
  have yearBound : year < 10000 := lt_of_readDigits yearRead
  have fractionBound := lt_of_readFraction fractionRead
  have offsetBound := bounds_of_readOffset offsetRead
  split at read
  · next valid =>
    obtain ⟨_, date, hourBound, minuteBound, _⟩ := valid
    have monthStart : 1 ≤ month := date.1
    have monthBound : month ≤ 12 := date.2.1
    have dayStart : 1 ≤ day := date.2.2.1
    have dayBound : day ≤ 31 := date.day_le
    cases read
    constructor
    · have first : firstRecord = -62198755200 := by decide
      rw [first]
      unfold secondsPerDay at *
      simp only [Date.toDays, Date.epoch]
      split <;> omega
    · have last : lastDay = 95026236 := by decide
      rw [last]
      unfold secondsPerDay at *
      simp only [Date.toDays, Date.epoch]
      split <;> omega
    · dsimp only
      split <;> omega
  · cases read

end Timestamp

namespace Expiry
variable {annotations : Option (Fields String)} {now later expiresAt : Timestamp}
  {refresh : Duration}

def Due (annotations : Option (Fields String)) (now : Timestamp) (refresh : Duration) : Prop :=
  ∀ expiresAt, recorded annotations = .ok expiresAt → expiresAt ≤ now.add ⟨2 * refresh.nanos⟩

theorem recordable_of_recorded (record : recorded annotations = .ok expiresAt) :
    expiresAt.Recordable := by
  unfold recorded at record
  split at record
  · cases record
  · split at record
    · cases record
    · next read =>
      cases record
      exact Timestamp.recordable_of_read read

/-- How long before its expiration a secret is due: two refresh intervals, cut to what a signed span
can hold. -/
def lead (refresh : Duration) : Nat := min (2 * refresh.nanos) longestSpan.toNat

theorem trigger_eq (expiresAt : Timestamp) (refresh : Duration) :
    trigger expiresAt refresh = (expiresAt.shift? (-(lead refresh))).getD .earliest := by
  unfold trigger span?
  have bound : longestSpan = 9223372036854775807000000 := by decide
  have most : Duration.longest.nanos = 18446744073709551615999999999 := by decide
  have double : refresh.double.nanos = min (2 * refresh.nanos) Duration.longest.nanos := rfl
  split
  · have same : lead refresh = refresh.double.nanos := by
      unfold lead
      omega
    rw [same]
    rfl
  · have same : lead refresh = longestSpan.toNat := by
      unfold lead
      omega
    rw [same]
    rfl

theorem le_add_of_unshifted {lead span : Nat} (recordable : expiresAt.Recordable)
    (clock : now.OnClock) (within : lead ≤ span)
    (outside : ¬ (expiresAt.shift (-lead)).InCalendar) : expiresAt ≤ now.add ⟨span⟩ := by
  obtain ⟨_, early, fine⟩ := recordable
  obtain ⟨⟨started, _⟩, subsecond⟩ := id clock
  rw [Timestamp.add, Timestamp.shift_forward clock, Timestamp.le_ofTotal_iff]
  rw [Timestamp.shift_back fine] at outside
  unfold Timestamp.InCalendar at outside
  generalize Timestamp.earliest.seconds = first at *
  generalize (Timestamp.lastDay + 1) * Timestamp.secondsPerDay = last at *
  unfold Timestamp.isLeap Timestamp.ofTotal Timestamp.total Timestamp.nanosPerSecond at *
  split at outside <;> split <;> simp only [decide_eq_true_eq] at * <;> omega

theorem le_add_of_shifted {lead span : Nat} (recordable : expiresAt.Recordable)
    (clock : now.OnClock) (within : lead ≤ span)
    (due : (expiresAt.shift (-lead)).since now ≤ 0) : expiresAt ≤ now.add ⟨span⟩ := by
  have fine := recordable.fine
  have subsecond := clock.2
  rw [Timestamp.add, Timestamp.shift_forward clock, Timestamp.le_ofTotal_iff]
  rw [Timestamp.since_nonpos_iff clock, Timestamp.shift_back fine] at due
  by_cases inside : expiresAt.isLeap ∧ lead < Timestamp.nanosPerSecond
  · rw [if_pos inside] at due
    rw [if_pos inside.1]
    unfold Timestamp.isLeap Timestamp.total Timestamp.secondsPerDay Timestamp.nanosPerSecond at *
    simp only [decide_eq_true_eq] at *
    split at due <;> omega
  · rw [if_neg inside] at due
    unfold Timestamp.isLeap Timestamp.ofTotal Timestamp.total Timestamp.nanosPerSecond at *
    simp only [decide_eq_true_eq] at *
    rw [if_neg (by omega)] at due
    split <;> omega

theorem due_of_delete {reason : DeleteReason} (clock : now.OnClock)
    (decided : decide annotations now refresh = .delete reason) : Due annotations now refresh := by
  intro expiresAt record
  have within : lead refresh ≤ 2 * refresh.nanos := Nat.min_le_left _ _
  have recordable := recordable_of_recorded record
  simp only [decide, record, trigger_eq] at decided
  have due : ((expiresAt.shift? (-(lead refresh))).getD .earliest).since now ≤ 0 := by
    refine Int.not_lt.mp fun soon => ?_
    rw [if_pos soon] at decided
    cases decided
  by_cases inside : (expiresAt.shift (-(lead refresh))).InCalendar
  · rw [Timestamp.shift?, if_pos inside] at due
    exact le_add_of_shifted recordable clock within due
  · exact le_add_of_unshifted recordable clock within inside

theorem Due.persists (due : Due annotations now refresh) (clock : now.OnClock)
    (laterClock : later.OnClock) (order : now ≤ later) : Due annotations later refresh := by
  intro expiresAt record
  have reached := due expiresAt record
  rw [Timestamp.add, Timestamp.shift_forward clock, Timestamp.le_ofTotal_iff] at reached
  rw [Timestamp.add, Timestamp.shift_forward laterClock, Timestamp.le_ofTotal_iff]
  have total : now.total ≤ later.total := by
    have subsecond := clock.2
    have order : now.seconds < later.seconds ∨
        now.seconds = later.seconds ∧ now.nanos ≤ later.nanos := order
    unfold Timestamp.total Timestamp.nanosPerSecond at *
    omega
  split at reached
  · next leap =>
    rw [if_pos leap]
    omega
  · next steady =>
    rw [if_neg steady]
    omega

end Expiry
end AgentOperator
