import AgentOperator.Proofs.ExpiryTime
import AgentOperator.Proofs.JsonMembers
import AgentOperator.Proofs.TimestampText
import AgentOperator.Timestamp.Relaxed

/-!
Metadata times through text and back. What is written is in the form that is read, up to whole
seconds; a leap second is written as second 60 and stays one.
-/
namespace AgentOperator

namespace Timestamp

def wholeSeconds (t : Timestamp) : Timestamp := ⟨t.seconds, if t.isLeap then nanosPerSecond else 0⟩

theorem isLeap_wholeSeconds (t : Timestamp) : t.wholeSeconds.isLeap = t.isLeap := by
  unfold wholeSeconds
  cases leap : t.isLeap <;> rfl

theorem renderSeconds_wholeSeconds (t : Timestamp) :
    t.wholeSeconds.renderSeconds = t.renderSeconds := by
  unfold renderSeconds clockText
  rw [isLeap_wholeSeconds]
  rfl

theorem isBlank_of_isDigit {c : Char} (digit : isDigit c) : Text.isBlank c = false := by
  simp only [isDigit, decide_eq_true_eq, Char.le_def, UInt32.le_iff_toNat_le] at digit
  have low : 48 ≤ c.toNat := digit.1
  have high : c.toNat ≤ 57 := digit.2
  simp only [Text.isBlank, Text.within, Text.blankRanges, List.any_cons, List.any_nil,
    Bool.or_false, Bool.or_eq_false_iff, Bool.and_eq_false_iff, decide_eq_false_iff_not]
  omega

theorem exists_digit {width value : Nat} (positive : 0 < width) (small : value < Nat.pow 10 width) :
    ∃ c rest, padded width value = c :: rest ∧ isDigit c := by
  have length := length_padded positive small
  have digits := List.all_eq_true.mp (digits_padded width value)
  cases same : padded width value with
  | nil =>
    rw [same] at length
    exact absurd length (by simp; omega)
  | cons c rest => exact ⟨c, rest, rfl, digits c (by simp [same])⟩

theorem trimStart_padded {width value : Nat} (positive : 0 < width)
    (small : value < Nat.pow 10 width) (rest : List Char) :
    Text.trimStart (padded width value ++ rest) = padded width value ++ rest := by
  obtain ⟨c, others, same, digit⟩ := exists_digit positive small
  rw [same, Text.trimStart, List.cons_append, List.dropWhile_cons, isBlank_of_isDigit digit]
  rfl

namespace Relaxed

theorem number_padded {width value : Nat} (positive : 0 < width) (small : value < Nat.pow 10 width)
    {c : Char} (stop : isDigit c = false) (rest : List Char) :
    number (some width) (padded width value ++ c :: rest) = .ok (value, c :: rest) := by
  have length := length_padded positive small
  have digits := List.all_eq_true.mp (digits_padded width value)
  have taken : (padded width value ++ c :: rest).takeWhile isDigit = padded width value := by
    rw [List.takeWhile_append_of_pos digits]
    simp [stop]
  have kept : (padded width value).take width = padded width value :=
    List.take_of_length_le (by omega)
  obtain ⟨first, others, same, digit⟩ := exists_digit positive small
  unfold number
  rw [taken]
  split
  · next empty => simp at empty
  · next head tail whole =>
    rw [same, List.cons_append] at whole
    obtain ⟨rfl, _⟩ := List.cons.inj whole
    simp [digit, kept]

theorem part_padded {low high value : Nat} (above : low ≤ value) (below : value ≤ high)
    (small : value < 100) {c : Char} (stop : isDigit c = false) (rest : List Char) :
    part low high (padded 2 value ++ c :: rest) = .ok (value, c :: rest) := by
  unfold part
  rw [trimStart_padded (by omega) small, number_padded (by omega) small stop]
  simp only [bind, Except.bind, if_pos (And.intro above below)]
  rfl

theorem year_of_digit {c : Char} {chars : List Char}
    (solid : Text.trimStart (c :: chars) = c :: chars) (digit : isDigit c) : year (c :: chars) =
      ((number (some 4) (c :: chars)).map fun (value, rest) => ((value : Int), rest)) >>=
        fun (value, rest) =>
          if -longestYear ≤ value ∧ value < longestYear then return (value, rest)
          else .error .outOfRange := by
  unfold year
  rw [solid]
  split
  · next minus =>
    obtain ⟨rfl, _⟩ := List.cons.inj minus
    cases digit
  · next plus =>
    obtain ⟨rfl, _⟩ := List.cons.inj plus
    cases digit
  · rfl

-- stated for any bound: the bound on years is so large that it must not be computed with
theorem within_bound {value bound : Int} (fits : -bound ≤ value ∧ value < bound)
    (rest : List Char) :
    ((Except.ok (value, rest) : Except Unreadable _) >>= fun (value, rest) =>
      if -bound ≤ value ∧ value < bound then return (value, rest) else .error .outOfRange) =
    .ok (value, rest) :=
  if_pos fits

theorem year_padded {value : Nat} (small : value < Nat.pow 10 4) {c : Char}
    (stop : isDigit c = false) (rest : List Char) :
    year (padded 4 value ++ c :: rest) = .ok ((value : Int), c :: rest) := by
  have read := number_padded (by omega) small stop rest
  have solid := trimStart_padded (by omega) small (c :: rest)
  have fits : -longestYear ≤ (value : Int) ∧ (value : Int) < longestYear := by
    have : value < 10000 := small
    unfold longestYear
    omega
  obtain ⟨first, others, same, digit⟩ := exists_digit (by omega) small
  rw [same, List.cons_append] at read solid ⊢
  rw [year_of_digit solid digit, read]
  exact within_bound fits (c :: rest)

theorem mark_self {c : Char} (solid : Text.isBlank c = false) (rest : List Char) :
    mark c (c :: rest) = .ok rest := by
  unfold mark
  rw [Text.trimStart, List.dropWhile_cons, solid]
  simp

theorem digits_of_number {chars rest : List Char} {value : Nat}
    (read : number (some 9) chars = .ok (value, rest)) :
    ∃ digits : List Char, digits.all isDigit ∧ digits.length ≤ 9 ∧ chars = digits ++ rest := by
  unfold number at read
  split at read
  · cases read
  · next c tail =>
    split at read
    · cases read
    · cases read
      refine ⟨(List.takeWhile isDigit (c :: tail)).take 9, ?_, List.length_take_le _ _, ?_⟩
      · simp only [List.all_eq_true]
        intro d member
        exact List.all_eq_true.mp List.all_takeWhile d (List.mem_of_mem_take member)
      · have first : ((List.takeWhile isDigit (c :: tail)).take 9) <+: (c :: tail) :=
          (List.take_prefix _ _).trans (List.takeWhile_prefix _)
        exact (List.prefix_iff_eq_append.mp first).symm

theorem fraction_lt {chars rest : List Char} {value : Nat}
    (read : fraction chars = .ok (value, rest)) : value < nanosPerSecond := by
  unfold fraction at read
  split at read
  · next tail =>
    obtain ⟨⟨first, after⟩, kept, read⟩ := exists_ok_of_bind read
    obtain ⟨digits, decimal, short, rfl⟩ := digits_of_number kept
    cases read
    have count : (digits ++ after).length - after.length = digits.length := by simp
    have taken : (digits ++ after).take digits.length = digits := List.take_left
    rw [count, taken]
    calc Timestamp.number digits * Nat.pow 10 (9 - digits.length)
        < Nat.pow 10 digits.length * Nat.pow 10 (9 - digits.length) :=
          Nat.mul_lt_mul_of_pos_right (number_lt decimal) (Nat.pow_pos (by decide))
      _ = Nat.pow 10 (digits.length + (9 - digits.length)) := (Nat.pow_add 10 _ _).symm
      _ = nanosPerSecond := by
        rw [Nat.add_sub_cancel' short]
        rfl
  · cases read
    decide

theorem whole_minutes_of_clockOffset {sign offset : Int} {chars rest : List Char}
    (read : clockOffset sign chars = .ok (offset, rest)) : offset % 60 = 0 := by
  unfold clockOffset at read
  obtain ⟨⟨tens, ones, middle⟩, _, read⟩ := exists_ok_of_bind read
  obtain ⟨⟨tens', ones', last⟩, _, read⟩ := exists_ok_of_bind read
  dsimp only at read
  split at read
  · cases read
  · cases read
    have minutes : (60 : Int) ∣ ((10 * tens + ones) * 3600 + (10 * tens' + ones') * 60 : Nat) := by
      omega
    exact Int.emod_eq_zero_of_dvd (Int.dvd_trans minutes (Int.dvd_mul_left _ _))

theorem whole_minutes_of_offset {offset' : Int} {chars rest : List Char}
    (read : offset chars = .ok (offset', rest)) : offset' % 60 = 0 := by
  unfold offset at read
  split at read
  · cases read
  · split at read
    · cases read; rfl
    · split at read
      · cases read; rfl
      · split at read
        · exact whole_minutes_of_clockOffset read
        · split at read
          · exact whole_minutes_of_clockOffset read
          · cases read

end Relaxed

theorem eq_of_guards {first second third : Prop} [Decidable first] [Decidable second]
    [Decidable third] {e₁ e₂ e₃ : Unreadable} {moment t : Timestamp}
    (read : (if first then .error e₁ else if second then .error e₂ else if third then .error e₃
      else pure moment) = Except.ok t) : t = moment := by
  split at read
  · cases read
  · split at read
    · cases read
    · split at read
      · cases read
      · exact (Except.ok.inj read).symm

theorem regular_of_readRelaxed {text : String} {t : Timestamp}
    (read : readRelaxed text = .ok t) : t.Regular := by
  unfold readRelaxed at read
  obtain ⟨⟨year, _⟩, _, read⟩ := exists_ok_of_bind read
  obtain ⟨_, _, read⟩ := exists_ok_of_bind read
  obtain ⟨⟨month, _⟩, _, read⟩ := exists_ok_of_bind read
  obtain ⟨_, _, read⟩ := exists_ok_of_bind read
  obtain ⟨⟨day, _⟩, _, read⟩ := exists_ok_of_bind read
  obtain ⟨_, _, read⟩ := exists_ok_of_bind read
  obtain ⟨⟨hour, _⟩, _, read⟩ := exists_ok_of_bind read
  obtain ⟨_, _, read⟩ := exists_ok_of_bind read
  obtain ⟨⟨minute, _⟩, _, read⟩ := exists_ok_of_bind read
  obtain ⟨_, _, read⟩ := exists_ok_of_bind read
  obtain ⟨⟨second, _⟩, _, read⟩ := exists_ok_of_bind read
  obtain ⟨⟨fraction, _⟩, fractionRead, read⟩ := exists_ok_of_bind read
  obtain ⟨⟨offset, rest⟩, offsetRead, read⟩ := exists_ok_of_bind read
  have small := Relaxed.fraction_lt fractionRead
  have whole := Relaxed.whole_minutes_of_offset offsetRead
  rw [eq_of_guards read]
  unfold Regular nanosPerSecond secondsPerDay at *
  dsimp only
  split <;> omega

theorem inCalendar_of_utcYear {t : Timestamp} (early : 0 ≤ t.utcYear) (late : t.utcYear ≤ 9999) :
    t.InCalendar := by
  have first := t.utcYear_lt_iff 0
  have last := t.utcYear_lt_iff 10000
  have low : earliest.seconds ≤ Date.toDays ⟨0, 1, 1⟩ * secondsPerDay := by decide
  have high : Date.toDays ⟨10000, 1, 1⟩ * secondsPerDay ≤ (lastDay + 1) * secondsPerDay := by
    decide
  unfold InCalendar
  omega

open Relaxed in
theorem readRelaxed_clock {date : Date} {hour minute second : Nat} (valid : date.Valid)
    (early : 0 ≤ date.year) (late : date.year ≤ 9999) (hours : hour < 24) (minutes : minute < 60)
    (seconds : second ≤ 60) {moment : Timestamp}
    (same : moment = ⟨date.toDays * secondsPerDay +
      (hour * 3600 + minute * 60 + min second 59 : Nat), if second = 60 then nanosPerSecond else 0⟩)
    (inside : moment.InCalendar) :
    readRelaxed (String.ofList (yearText date.year ++ ['-'] ++ padded 2 date.month ++ ['-'] ++
      padded 2 date.day ++ ['T'] ++ padded 2 hour ++ [':'] ++ padded 2 minute ++ [':'] ++
      padded 2 second ++ ['Z'])) = .ok moment := by
  have whole : (⟨date.year.toNat, date.month, date.day⟩ : Date) = date := by
    rw [Int.toNat_of_nonneg early]
  have small : date.year.toNat < Nat.pow 10 4 := by
    show date.year.toNat < 10000
    omega
  have monthHigh := valid.2.1
  have dayHigh := valid.day_le
  unfold readRelaxed
  rw [yearText, if_pos ⟨early, late⟩]
  simp only [String.toList_ofList, List.append_assoc, List.cons_append, List.nil_append]
  rw [bind_of_ok (year_padded small (by decide) _)]
  dsimp only
  rw [bind_of_ok (mark_self (by decide) _),
    bind_of_ok (part_padded valid.1 monthHigh (by omega) (by decide) _)]
  dsimp only
  rw [bind_of_ok (mark_self (by decide) _),
    bind_of_ok (part_padded valid.2.2.1 dayHigh (by omega) (by decide) _)]
  dsimp only
  rw [bind_of_ok (show divider _ = .ok _ from rfl),
    bind_of_ok (part_padded (Nat.zero_le _) (by omega) (by omega) (by decide) _)]
  dsimp only
  rw [bind_of_ok (mark_self (by decide) _),
    bind_of_ok (part_padded (Nat.zero_le _) (by omega) (by omega) (by decide) _)]
  dsimp only
  rw [bind_of_ok (mark_self (by decide) _),
    bind_of_ok (part_padded (Nat.zero_le _) seconds (by omega) (by decide) _)]
  dsimp only
  rw [bind_of_ok (show fraction ['Z'] = .ok (0, ['Z']) from rfl)]
  dsimp only
  rw [bind_of_ok (show offset (Text.trimStart ['Z']) = .ok (0, []) from rfl)]
  dsimp only
  rw [whole, Int.sub_zero, Nat.add_zero, ← same, if_neg (by simp [Text.trimStart]),
    if_neg (by simp [valid, inside, secondsPerDay]), if_neg (by simp [inside])]
  rfl

theorem readRelaxed_renderSeconds {t : Timestamp} (regular : t.Regular) (early : 0 ≤ t.utcYear)
    (late : t.utcYear ≤ 9999) : readRelaxed t.renderSeconds = .ok t.wholeSeconds := by
  obtain ⟨seconds, nanos⟩ := t
  let time := (seconds % secondsPerDay).toNat
  have inDay : time < 86400 := by
    simp only [time, secondsPerDay]
    omega
  have whole : seconds / secondsPerDay * secondsPerDay + time = seconds := by
    simp only [time, secondsPerDay]
    omega
  have counted := Date.toDays_ofDays (seconds / secondsPerDay)
  have inside : (wholeSeconds ⟨seconds, nanos⟩).InCalendar :=
    inCalendar_of_utcYear (t := wholeSeconds ⟨seconds, nanos⟩) early late
  simp only [Regular] at regular
  by_cases leap : nanosPerSecond ≤ nanos
  · have last : time % 60 = 59 := by
      unfold nanosPerSecond at *
      simp only [time, secondsPerDay]
      omega
    simp only [renderSeconds, clockText, isLeap, leap, decide_true, if_true]
    refine readRelaxed_clock (Date.valid_ofDays _) early late (by omega) (by omega) (by omega) ?_
      inside
    simp only [wholeSeconds, isLeap, leap, decide_true, if_true, Timestamp.mk.injEq, counted]
    constructor
    · omega
    · exact (if_pos (by omega)).symm
  · simp only [renderSeconds, clockText, isLeap, leap, decide_false, Bool.false_eq_true, if_false]
    refine readRelaxed_clock (Date.valid_ofDays _) early late (by omega) (by omega) (by omega) ?_
      inside
    simp only [wholeSeconds, isLeap, leap, decide_false, Bool.false_eq_true, if_false,
      Timestamp.mk.injEq, counted]
    constructor
    · omega
    · exact (if_neg (by omega)).symm

end Timestamp
end AgentOperator
