import AgentOperator.Proofs.Calendar
import AgentOperator.Timestamp.Text

/-!
The round trip of timestamps through text. What is written is read back, unless its year needs a
sign: the profile of RFC 3339 has four digits for the year and nothing else.
-/
namespace AgentOperator.Timestamp

def utcYear (t : Timestamp) : Int := (Date.ofDays (t.seconds / secondsPerDay)).year

theorem utcYear_lt_iff (t : Timestamp) (year : Int) :
    t.utcYear < year ↔ t.seconds < Date.toDays ⟨year, 1, 1⟩ * secondsPerDay := by
  have calendar := Date.toDays_lt_iff (Date.valid_ofDays (t.seconds / secondsPerDay)) year
  rw [Date.toDays_ofDays] at calendar
  unfold utcYear
  rw [← calendar]
  unfold secondsPerDay
  omega

/-- As clocks have it: only the last second of a minute can be followed by a leap second. -/
def Regular (t : Timestamp) : Prop :=
  t.nanos < nanosPerSecond ∨ t.nanos < 2 * nanosPerSecond ∧ t.seconds % 60 = 59

instance (t : Timestamp) : Decidable t.Regular := by unfold Regular; infer_instance

theorem isDigit_of_char {c : Char} (digit : c.isDigit) : isDigit c := by
  simpa [isDigit, Char.isDigit, Char.le_def] using digit

theorem number_eq (digits : List Char) : number digits = Nat.ofDigitChars 10 digits 0 := by
  unfold number digitValue
  simp only [Nat.ofDigitChars_eq_foldl, Nat.mul_comm]
  congr 1

theorem digits_padded (width value : Nat) : (padded width value).all isDigit := by
  simp only [List.all_eq_true, padded, List.mem_append, List.mem_replicate]
  intro c member
  rcases member with ⟨_, rfl⟩ | member
  · decide
  · exact isDigit_of_char (Nat.isDigit_of_mem_toDigits (by omega) (by omega) member)

@[simp] theorem number_padded (width value : Nat) : number (padded width value) = value := by
  rw [number_eq, padded, Nat.ofDigitChars_append, Nat.ofDigitChars_replicate_zero, Nat.mul_zero]
  exact Nat.ofDigitChars_ten_toDigits

theorem length_padded {width value : Nat} (positive : 0 < width)
    (small : value < Nat.pow 10 width) : (padded width value).length = width := by
  have short := (Nat.length_toDigits_le_iff (b := 10) (by omega) positive).mpr small
  simp [padded]
  omega

theorem readDigits_padded {width value : Nat} (positive : 0 < width)
    (small : value < Nat.pow 10 width) (rest : List Char) :
    readDigits? width (padded width value ++ rest) = some (value, rest) := by
  have length := length_padded positive small
  unfold readDigits?
  simp [List.take_left' length, List.drop_left' length, length, digits_padded]

theorem readFraction_padded {width value : Nat} (positive : 0 < width) (most : width ≤ 9)
    (small : value < Nat.pow 10 width) {c : Char} (stop : isDigit c = false) (rest : List Char) :
    readFraction? ('.' :: padded width value ++ c :: rest) =
      some (value * Nat.pow 10 (9 - width), c :: rest) := by
  have length := length_padded positive small
  have digits := List.all_eq_true.mp (digits_padded width value)
  have taken : (padded width value ++ c :: rest).takeWhile isDigit = padded width value := by
    rw [List.takeWhile_append_of_pos digits]
    simp [stop]
  have dropped : (padded width value ++ c :: rest).dropWhile isDigit = c :: rest := by
    rw [List.dropWhile_append_of_pos digits]
    simp [stop]
  have kept : (padded width value).take 9 = padded width value := List.take_of_length_le (by omega)
  have some' : (padded width value).isEmpty = false := by
    rw [List.isEmpty_eq_false_iff, ← List.length_pos_iff]
    omega
  simp [readFraction?, taken, dropped, kept, some', length]

theorem readFraction_text {nanos : Nat} (small : nanos < nanosPerSecond) {c : Char}
    (stop : isDigit c = false) (mark : c ≠ '.') (rest : List Char) :
    readFraction? (fractionText nanos ++ c :: rest) = some (nanos, c :: rest) := by
  unfold nanosPerSecond at small
  unfold fractionText
  split
  · next none =>
    simp [readFraction?, none, mark]
  · split
    · next millis =>
      have short : nanos / 1000000 < 1000 := by omega
      have whole : nanos / 1000000 * 1000000 = nanos := by omega
      rw [readFraction_padded (by omega) (by omega) short stop]
      exact congrArg (fun value => some (value, c :: rest)) whole
    · split
      · next micros =>
        have short : nanos / 1000 < 1000000 := by omega
        have whole : nanos / 1000 * 1000 = nanos := by omega
        rw [readFraction_padded (by omega) (by omega) short stop]
        exact congrArg (fun value => some (value, c :: rest)) whole
      · rw [readFraction_padded (by omega) (by omega) small stop]
        exact congrArg (fun value => some (value, c :: rest)) (Nat.mul_one nanos)

theorem readDigits_year (year : Int) (rest : List Char) :
    readDigits? 4 (yearText year ++ rest) =
      if 0 ≤ year ∧ year ≤ 9999 then some (year.toNat, rest) else none := by
  unfold yearText
  split
  · have short : year.toNat < 10000 := by omega
    exact readDigits_padded (by omega) short rest
  · split
    · simp [readDigits?, isDigit]
    · simp [readDigits?, isDigit]

theorem readTwo_bind {α : Type} {value : Nat} (small : value < 100) (rest : List Char)
    (next : Nat × List Char → Option α) :
    (readDigits? 2 (padded 2 value ++ rest)).bind next = next (value, rest) := by
  rw [readDigits_padded (by omega) small]
  rfl

theorem readChar_bind {α : Type} {wanted : List Char} {c : Char} (mark : c ∈ wanted)
    (rest : List Char) (next : List Char → Option α) :
    (readChar? wanted (c :: rest)).bind next = next rest := by
  rw [readChar?, if_pos mark]
  rfl

theorem read_parts {date : Date} {hour minute second nanos : Nat} (month : date.month < 100)
    (day : date.day < 100) (hours : hour < 100) (minutes : minute < 100) (seconds : second < 100)
    (small : nanos < nanosPerSecond) :
    read? (String.ofList (yearText date.year ++ ['-'] ++ padded 2 date.month ++ ['-'] ++
      padded 2 date.day ++ ['T'] ++ padded 2 hour ++ [':'] ++ padded 2 minute ++ [':'] ++
      padded 2 second ++ fractionText nanos ++ ['+', '0', '0', ':', '0', '0'])) =
    if (0 ≤ date.year ∧ date.year ≤ 9999) ∧ date.Valid ∧ hour < 24 ∧ minute < 60 ∧ second ≤ 60 then
      some ⟨date.toDays * secondsPerDay + (hour * 3600 + minute * 60 + min second 59 : Nat),
        if second = 60 then nanosPerSecond + nanos else nanos⟩
    else none := by
  have offset : readOffset? ['+', '0', '0', ':', '0', '0'] = some (0, []) := by decide
  have fraction := readFraction_text small (c := '+') (by decide) (by decide)
    ['0', '0', ':', '0', '0']
  simp only [read?, String.toList_ofList, List.append_assoc, List.cons_append, List.nil_append,
    readDigits_year, Option.bind_eq_bind]
  by_cases fits : 0 ≤ date.year ∧ date.year ≤ 9999
  · have year : (date.year.toNat : Int) = date.year := by omega
    rw [if_pos fits, Option.bind_some, readChar_bind (by decide), readTwo_bind month,
      readChar_bind (by decide), readTwo_bind day, readChar_bind (by decide), readTwo_bind hours,
      readChar_bind (by decide), readTwo_bind minutes, readChar_bind (by decide),
      readTwo_bind seconds, fraction, Option.bind_some, offset, Option.bind_some]
    simp only [fits, year, and_self, true_and, Int.sub_zero]
  · rw [if_neg fits, if_neg (fun all => fits all.1)]
    rfl

/-- What was written is read back exactly if its year has four digits. -/
theorem read_render {t : Timestamp} (regular : t.Regular) :
    read? t.render = if 0 ≤ t.utcYear ∧ t.utcYear ≤ 9999 then some t else none := by
  obtain ⟨seconds, nanos⟩ := t
  let time := (seconds % secondsPerDay).toNat
  have inDay : time < 86400 := by
    simp only [time, secondsPerDay]
    omega
  have whole : seconds / secondsPerDay * secondsPerDay + time = seconds := by
    simp only [time, secondsPerDay]
    omega
  have valid := Date.valid_ofDays (seconds / secondsPerDay)
  have counted := Date.toDays_ofDays (seconds / secondsPerDay)
  have monthSmall := valid.2.1
  have daySmall := valid.day_le
  unfold utcYear
  simp only [Regular] at regular
  by_cases leap : nanosPerSecond ≤ nanos
  · have last : time % 60 = 59 := by
      unfold nanosPerSecond at *
      simp only [time, secondsPerDay]
      omega
    simp only [render, clockText, isLeap, leap, decide_true, if_true]
    rw [read_parts (by omega) (by omega) (by omega) (by omega) (by omega) (by omega), counted, last]
    congr 1
    · simp [valid]
      omega
    · simp only [if_true, Option.some.injEq, Timestamp.mk.injEq]
      constructor
      · omega
      · omega
  · simp only [render, clockText, isLeap, leap, decide_false, Bool.false_eq_true, if_false]
    rw [read_parts (by omega) (by omega) (by omega) (by omega) (by omega) (by omega), counted]
    have minute : time % 60 + 0 ≠ 60 := by omega
    congr 1
    · simp [valid]
      omega
    · simp only [Option.some.injEq, Timestamp.mk.injEq]
      constructor
      · omega
      · exact if_neg minute

end AgentOperator.Timestamp
