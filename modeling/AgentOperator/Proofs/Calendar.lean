import AgentOperator.Timestamp.Calendar

/-!
Days and dates. Every day has one valid date, and counting the days up to that date gives the day
back. As in the conversion itself years begin with March, so that the leap day is the last of its
year.
-/
namespace AgentOperator.Date

def daysBefore (year : Int) : Int := 365 * year + year / 4 - year / 100 + year / 400

theorem daysBefore_add_eras (year eras : Int) :
    daysBefore (year + eras * 400) = daysBefore year + 146097 * eras := by
  have fours : (year + eras * 400) / 4 = year / 4 + 100 * eras := by omega
  have hundreds : (year + eras * 400) / 100 = year / 100 + 4 * eras := by omega
  have whole : (year + eras * 400) / 400 = year / 400 + eras := by omega
  unfold daysBefore
  omega

theorem daysBefore_succ (year : Int) :
    daysBefore (year + 1) = daysBefore year + if isLeap (year + 1) then 366 else 365 := by
  have fours : (year + 1) / 4 = year / 4 + if (year + 1) % 4 = 0 then 1 else 0 := by omega
  have hundreds : (year + 1) / 100 = year / 100 + if (year + 1) % 100 = 0 then 1 else 0 := by omega
  have whole : (year + 1) / 400 = year / 400 + if (year + 1) % 400 = 0 then 1 else 0 := by omega
  unfold daysBefore isLeap
  rw [fours, hundreds, whole]
  simp only [decide_eq_true_eq]
  split <;> split <;> split <;> split <;> omega

theorem isLeap_add_eras (year eras : Int) : isLeap (year + eras * 400) = isLeap year := by
  have fours : (year + eras * 400) % 4 = year % 4 := by omega
  have hundreds : (year + eras * 400) % 100 = year % 100 := by omega
  have whole : (year + eras * 400) % 400 = year % 400 := by omega
  unfold isLeap
  rw [fours, hundreds, whole]

/-!
The year of a day within an era. The last day of the era is the leap day of its last century and
the only one that would make a fifth century.
-/

theorem daysBefore_le_day {day year : Int} (first : 0 ≤ day) (last : day < 146097)
    (found : year = (day - day / 1460 + day / 36524 - day / 146096) / 365) :
    daysBefore year ≤ day := by
  have short : year / 400 = 0 := by omega
  unfold daysBefore
  rw [short]
  generalize centuries : day / 36524 = e at *
  generalize quads : day / 1460 = c at *
  have century : e = 0 ∨ e = 1 ∨ e = 2 ∨ e = 3 ∨ (e = 4 ∧ day = 146096) := by omega
  have leaps : c < year / 4 ∨ year / 4 ≤ c := by omega
  rcases leaps with leaps | leaps <;> rcases century with h | h | h | h | h <;> omega

theorem day_lt_daysBefore {day year : Int} (first : 0 ≤ day) (last : day < 146097)
    (found : year = (day - day / 1460 + day / 36524 - day / 146096) / 365) :
    day < daysBefore (year + 1) := by
  unfold daysBefore
  generalize centuries : day / 36524 = e at *
  generalize quads : day / 1460 = c at *
  have century : e = 0 ∨ e = 1 ∨ e = 2 ∨ e = 3 ∨ (e = 4 ∧ day = 146096) := by omega
  have leaps : c ≤ (year + 1) / 4 ∨ (year + 1) / 4 < c := by omega
  have turn : (year + 1) / 100 ≤ e ∨ year + 1 = 100 * (e + 1) := by omega
  rcases leaps with leaps | leaps
  · rcases turn with turn | turn <;> rcases century with h | h | h | h | h <;> omega
  · omega

/-- Days of a year before one of its months. In each five months 31 and 30 days take turns. -/
def monthStart (month : Int) : Int := (153 * month + 2) / 5

/-- Where a day lies: in which year, in which month of it and how many days into that month. -/
structure Placed (days year month day : Int) : Prop where
  monthLow : 0 ≤ month
  monthHigh : month < 12
  dayLow : 0 ≤ day
  inMonth : monthStart month + day < monthStart (month + 1)
  inYear : monthStart month + day < if isLeap (year + 1) then 366 else 365
  counted : days + epoch = daysBefore year + monthStart month + day

theorem exists_placed (days : Int) : ∃ year month day, Placed days year month day ∧
    ofDays days = ⟨if 10 ≤ month then year + 1 else year,
      (if 10 ≤ month then month - 9 else month + 3).toNat, (day + 1).toNat⟩ := by
  let era := (days + epoch) / 146097
  let dayOfEra := (days + epoch) % 146097
  let year := (dayOfEra - dayOfEra / 1460 + dayOfEra / 36524 - dayOfEra / 146096) / 365
  let dayOfYear := dayOfEra - (365 * year + year / 4 - year / 100)
  let month := (5 * dayOfYear + 2) / 153
  have first : 0 ≤ dayOfEra := by omega
  have last : dayOfEra < 146097 := by omega
  have before : daysBefore year ≤ dayOfEra := daysBefore_le_day first last rfl
  have after : dayOfEra < daysBefore (year + 1) := day_lt_daysBefore first last rfl
  have start : dayOfYear = dayOfEra - daysBefore year := by
    have short : year / 400 = 0 := by omega
    simp only [dayOfYear, daysBefore, short]
    omega
  rw [daysBefore_succ] at after
  refine ⟨year + era * 400, month, dayOfYear - monthStart month, ?_, rfl⟩
  have early : 0 ≤ dayOfYear := by omega
  have late : dayOfYear < if isLeap (year + 1) then 366 else 365 := by omega
  have short : dayOfYear < 366 := by split at late <;> omega
  have leap : isLeap (year + era * 400 + 1) = isLeap (year + 1) := by
    rw [← isLeap_add_eras (year + 1) era]
    congr 1
    omega
  constructor
  · omega
  · omega
  · unfold monthStart
    omega
  · unfold monthStart
    omega
  · rw [leap]
    omega
  · rw [daysBefore_add_eras]
    omega

theorem Valid.day_le {date : Date} (valid : date.Valid) : date.day ≤ 31 := by
  have bound := valid.2.2.2
  unfold monthLength at bound
  split at bound <;> (try split at bound) <;> omega

theorem toDays_ofDays (days : Int) : (ofDays days).toDays = days := by
  obtain ⟨year, month, day, placed, same⟩ := exists_placed days
  obtain ⟨monthLow, monthHigh, dayLow, _, _, counted⟩ := placed
  rw [same]
  unfold toDays
  unfold daysBefore monthStart at counted
  by_cases late : 10 ≤ month
  · have fromMarch : ((((month - 9).toNat + 9) % 12 : Nat) : Int) = month := by omega
    simp only [if_pos late, fromMarch]
    rw [if_pos (by omega)]
    omega
  · have fromMarch : ((((month + 3).toNat + 9) % 12 : Nat) : Int) = month := by omega
    simp only [if_neg late, fromMarch]
    rw [if_neg (by omega)]
    omega

theorem valid_ofDays (days : Int) : (ofDays days).Valid := by
  obtain ⟨year, month, day, placed, same⟩ := exists_placed days
  obtain ⟨monthLow, monthHigh, dayLow, inMonth, inYear, _⟩ := placed
  rw [same]
  unfold monthStart at *
  have months : month = 0 ∨ month = 1 ∨ month = 2 ∨ month = 3 ∨ month = 4 ∨ month = 5 ∨
      month = 6 ∨ month = 7 ∨ month = 8 ∨ month = 9 ∨ month = 10 ∨ month = 11 := by omega
  rcases months with h | h | h | h | h | h | h | h | h | h | h | h <;> subst h <;>
    simp [Valid, monthLength] <;> try omega
  -- February is left, whose last day depends on the year.
  split at inYear <;> simp [*] <;> omega

theorem daysBefore_mono {first last : Int} (order : first ≤ last) :
    daysBefore first ≤ daysBefore last := by
  unfold daysBefore
  omega

theorem toDays_lt_iff {date : Date} (valid : date.Valid) (year : Int) :
    date.toDays < toDays ⟨year, 1, 1⟩ ↔ date.year < year := by
  obtain ⟨monthLow, monthHigh, dayLow, _⟩ := id valid
  have dayHigh := valid.day_le
  have counted : date.toDays = daysBefore (if date.month ≤ 2 then date.year - 1 else date.year) +
      monthStart ((date.month + 9) % 12 : Nat) + date.day - 1 - epoch := rfl
  have newYear : toDays ⟨year, 1, 1⟩ = daysBefore (year - 1) + monthStart 10 - epoch := by
    simp only [toDays, daysBefore, monthStart]
    omega
  have growth : daysBefore (date.year - 1) + 365 ≤ daysBefore date.year := by
    unfold daysBefore
    omega
  rw [counted, newYear]
  unfold monthStart
  by_cases earlier : date.year < year
  · have order := daysBefore_mono (show date.year ≤ year - 1 by omega)
    split <;> omega
  · have order := daysBefore_mono (show year - 1 ≤ date.year - 1 by omega)
    split <;> omega

end AgentOperator.Date
