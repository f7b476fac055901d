import Mathlib.Data.String.Basic
import Datasheet.Proofs.Calendar.Days
import Datasheet.Proofs.Calendar.Written
import Datasheet.Sql.Engine.Day

/-! # Days of the engine

The engine counts milliseconds from a day long ago with a formula of its own and finds the day of a count with another
one. The first agrees with the numbers of the days. The second gives the day back from all years that have four digits,
but for a single day.
-/

namespace Datasheet.Sql

open Calendar

namespace Day

/-- A day as the engine tells it. -/
def ofDate (d : Date) : Day := ⟨d.year, d.month, d.day⟩

/-- The year of a day, if years begin with March. -/
def marchYear (d : Date) : Int := if d.month ≤ 2 then d.year - 1 else d.year

/-- The month of a day, from three on, if years begin with March. -/
def marchMonth (d : Date) : Int := if d.month ≤ 2 then d.month + 12 else d.month

/-- The days between the calendars with and without leap years at each century. -/
def leapDays (year : Int) : Int := 2 - year / 100 + year / 100 / 4

theorem dayNumber_eq {d : Date} (valid : d.isValid = true) :
    d.dayNumber + 2442112 = 36525 * (marchYear d + 4716) / 100 + 306001 * (marchMonth d + 1) / 10000 + d.day
      + leapDays (marchYear d) := by
  obtain ⟨least, most⟩ := Date.month_of_isValid valid
  obtain ⟨year, month, day⟩ := d
  have leap : isLeapYear year = true ↔ year % 4 = 0 ∧ (year % 100 ≠ 0 ∨ year % 400 = 0) := by simp [isLeapYear]
  simp only at least most
  have february : ((if isLeapYear year = true then 29 else 28 : Nat) : Int)
      = 28 + year / 4 - year / 100 + year / 400 - (year - 1) / 4 + (year - 1) / 100 - (year - 1) / 400 := by
    simp only [leap]
    split <;> omega
  interval_cases month
  all_goals
    simp only [Date.dayNumber, daysBeforeYear, daysBeforeMonth, daysInMonth, marchYear, marchMonth, leapDays]
    omega

/-- The day of the year, from 123 on, if years begin with March. -/
def marchDay (d : Date) : Int := 306001 * (marchMonth d + 1) / 10000 + d.day

/-- The day of the year tells the month and the day. Only a leap year reaches the last one. -/
theorem marchDay_spec {d : Date} (valid : d.isValid = true) :
    123 ≤ marchDay d ∧ marchDay d ≤ 488 ∧ (marchDay d = 123 → d.month = 3 ∧ d.day = 1)
      ∧ (marchDay d = 488 → isLeapYear (marchYear d + 1) = true) ∧ 10000 * marchDay d / 306001 = marchMonth d + 1 := by
  obtain ⟨least, most⟩ := Date.month_of_isValid valid
  obtain ⟨first, last⟩ := Date.isValid_iff.1 valid
  obtain ⟨year, month, day⟩ := d
  simp only at least most first last
  have february : (if isLeapYear year = true then 29 else 28) ≤ 29
      ∧ ((if isLeapYear year = true then 29 else 28) = 29 → isLeapYear year = true) := by
    split <;> simp_all
  interval_cases month
  all_goals
    simp only [daysInMonth] at last
    simp only [marchDay, marchMonth, marchYear, Nat.reduceLeDiff, if_true, if_false, true_and]
    refine ⟨by omega, by omega, by omega, fun leap => ?_, by omega⟩
  case «2» =>
    rw [Int.sub_add_cancel]
    exact february.2 (by omega)
  all_goals omega

/-- Milliseconds from the start of the engine's count to the start of 1970. -/
def epoch : Int := 210866760000000

theorem tdiv_hundred {year : Int} (least : -2 ≤ year) : 2 - year.tdiv 100 + (year.tdiv 100).tdiv 4 = leapDays year := by
  rcases Int.lt_or_le year 0 with before | after
  · obtain rfl | rfl : year = -1 ∨ year = -2 := by omega
    · decide
    · decide
  · rw [leapDays, Int.tdiv_eq_ediv_of_nonneg after, Int.tdiv_eq_ediv_of_nonneg (by omega)]

theorem marchYear_bounds (d : Date) : d.year - 1 ≤ marchYear d ∧ marchYear d ≤ d.year := by
  rw [marchYear]
  split <;> omega

theorem marchMonth_bounds {d : Date} (valid : d.isValid = true) : 3 ≤ marchMonth d ∧ marchMonth d ≤ 14 := by
  have month := Date.month_of_isValid valid
  rw [marchMonth]
  split <;> omega

theorem start?_eq {d : Date} (valid : d.isValid = true) (least : -1 ≤ d.year) (most : d.year ≤ 9999) :
    (ofDate d).start? = some (length * d.dayNumber + epoch) := by
  have number := dayNumber_eq valid
  have year := marchYear_bounds d
  have month := marchMonth_bounds valid
  have sameYear : (if (ofDate d).month ≤ 2 then (ofDate d).year - 1 else (ofDate d).year) = marchYear d := by
    simp only [ofDate, marchYear]
    norm_cast
  have sameMonth : (if (ofDate d).month ≤ 2 then (ofDate d).month + 12 else (ofDate d).month) = marchMonth d := by
    simp only [ofDate, marchMonth]
    norm_cast
  have inside : ¬((ofDate d).year < -4713 ∨ 9999 < (ofDate d).year) := by
    simp only [ofDate]
    omega
  rw [start?, if_neg inside]
  simp only [sameYear, sameMonth]
  rw [tdiv_hundred (by omega), Int.tdiv_eq_ediv_of_nonneg (by omega), Int.tdiv_eq_ediv_of_nonneg (by omega)]
  simp only [length, epoch, ofDate]
  congr 1
  omega

/-- The day that is not found from its count. -/
def lostDay : Date := ⟨300, 3, 1⟩

/-- The days up to a day, counted in centuries from the year 400. -/
theorem centuries_eq {d : Date} (valid : d.isValid = true) :
    ∃ rest, 4 * (d.dayNumber + 2440588) - 7468865 = 146097 * (marchYear d / 100 - 4) + rest ∧ 0 ≤ rest ∧ rest < 146097
      ∧ (rest = 0 → d.month = 3 ∧ d.day = 1 ∧ marchYear d % 400 = 300) := by
  have number := dayNumber_eq valid
  obtain ⟨low, high, first, last, -⟩ := marchDay_spec valid
  have leap : isLeapYear (marchYear d + 1) = true
      ↔ (marchYear d + 1) % 4 = 0 ∧ ((marchYear d + 1) % 100 ≠ 0 ∨ (marchYear d + 1) % 400 = 0) := by simp [isLeapYear]
  rw [leap] at last
  rw [leapDays, Int.add_assoc (36525 * (marchYear d + 4716) / 100), ← marchDay] at number
  generalize marchDay d = day at number low high first last
  generalize marchYear d = year at number last
  -- The year by its century and the year of the century.
  obtain ⟨century, rest, rfl, least, most⟩ : ∃ century rest, year = 100 * century + rest ∧ 0 ≤ rest ∧ rest ≤ 99 :=
    ⟨year / 100, year % 100, by omega, by omega, by omega⟩
  have whole : (100 * century + rest) / 100 = century := by omega
  have days : 36525 * (100 * century + rest + 4716) / 100 = 36525 * century + 365 * rest + rest / 4 + 1722519 := by omega
  rw [whole, days] at number
  refine ⟨4 * (365 * rest + rest / 4 + day) - 489 - century % 4, by omega, by omega, ?_, fun zero => ?_⟩
  · -- Only the last February of a century in a leap year comes that near to the next century.
    clear number days
    rcases Int.lt_or_le rest 99 with inner | final
    · omega
    · obtain rfl : rest = 99 := by omega
      by_cases full : day = 488
      · have leaps := (last full).2
        have leapCentury : century % 4 = 3 := by omega
        omega
      · omega
  · clear number days last leap
    obtain ⟨march, one⟩ := first (by omega)
    obtain rfl : rest = 0 := by omega
    have leapCentury : century % 4 = 3 := by omega
    exact ⟨march, one, by omega⟩

theorem tdiv_of_negative {n quotient rest : Int} (positive : 0 < rest) (part : rest < n) (negative : quotient < 0) :
    (n * quotient + rest).tdiv n = quotient + 1 := by
  have below : ¬(0 ≤ n * quotient + rest ∨ n ∣ n * quotient + rest) := by
    rintro (above | divides)
    · have bound : n * quotient ≤ n * (-1) := Int.mul_le_mul_of_nonneg_left (by omega) (by omega)
      omega
    · have parts : n ∣ rest := (Int.dvd_add_right (Int.dvd_mul_right _ _)).1 divides
      exact absurd (Int.le_of_dvd positive parts) (by omega)
  rw [Int.tdiv_eq_ediv, if_neg below, Int.add_comm (n * quotient), Int.add_mul_ediv_left _ _ (by omega),
    Int.ediv_eq_zero_of_lt (by omega) part, Int.sign_eq_one_of_pos (by omega), Int.zero_add]

/-- The correction for centuries is found from the days up to a day, though that is rounded towards the year 400. -/
theorem century_eq {d : Date} (valid : d.isValid = true) (least : 0 ≤ d.year) (other : d ≠ lostDay) {century : Int}
    (same : century = (4 * (d.dayNumber + 2440588) - 7468865).tdiv 146097) :
    1 + century - century.tdiv 4 = -leapDays (marchYear d) := by
  have year := marchYear_bounds d
  obtain ⟨rest, decomposed, low, high, first⟩ := centuries_eq valid
  rw [decomposed] at same
  clear decomposed
  -- Before the year 400 the quotient is negative, and rounding it towards zero is off by one unless nothing is left over.
  rcases Int.lt_or_le (marchYear d) 400 with before | after
  · have nonzero : rest ≠ 0 := by
      intro zero
      obtain ⟨month, day, last⟩ := first zero
      have march : marchYear d = d.year := by rw [marchYear, if_neg (by omega)]
      have third : d.year = 300 := by omega
      exact other (by rw [lostDay, ← third, ← month, ← day])
    rw [tdiv_of_negative (by omega) high (by omega)] at same
    have bounds : -1 ≤ marchYear d / 100 ∧ marchYear d / 100 ≤ 3 := by omega
    rw [same, leapDays]
    generalize marchYear d / 100 = century at bounds
    obtain ⟨low, high⟩ := bounds
    interval_cases century <;> rfl
  · have floor : (146097 * (marchYear d / 100 - 4) + rest) / 146097 = marchYear d / 100 - 4 := by
      rw [Int.add_comm, Int.add_mul_ediv_left _ _ (by decide), Int.ediv_eq_zero_of_lt low high, Int.zero_add]
    rw [Int.tdiv_eq_ediv_of_nonneg (by omega), floor] at same
    rw [same, leapDays, Int.tdiv_eq_ediv_of_nonneg (by omega)]
    omega

/-- The engine finds the day of a count. -/
theorem ofCount_eq {d : Date} (valid : d.isValid = true) (least : 0 ≤ d.year) (most : d.year ≤ 9999) (other : d ≠ lostDay)
    {milliseconds : Int} (start : 0 ≤ milliseconds) (stop : milliseconds < length) :
    ofCount (length * d.dayNumber + epoch + milliseconds) = ofDate d := by
  have number := dayNumber_eq valid
  have year := marchYear_bounds d
  have month := marchMonth_bounds valid
  obtain ⟨low, high, _, last, monthOf⟩ := marchDay_spec valid
  have leap : isLeapYear (marchYear d + 1) = true → (marchYear d + 1) % 4 = 0 := by
    intro known
    simp only [isLeapYear, Bool.and_eq_true, beq_iff_eq] at known
    exact known.1
  have early : 0 ≤ d.dayNumber + 2440588 := by
    rw [leapDays] at number
    omega
  -- Days are counted from noon, so the engine adds half a day before it divides.
  have noon : (length * d.dayNumber + epoch + milliseconds + 43200000).tdiv length = d.dayNumber + 2440588 := by
    rw [length] at stop ⊢
    rw [epoch, Int.tdiv_eq_ediv_of_nonneg (by omega)]
    omega
  have century := century_eq valid least other rfl
  -- With the correction for centuries the count is one of Julian years, and of the days since March.
  have julian : d.dayNumber + 2440588 + 1 + (4 * (d.dayNumber + 2440588) - 7468865).tdiv 146097
      - ((4 * (d.dayNumber + 2440588) - 7468865).tdiv 146097).tdiv 4 + 1524
        = 36525 * (marchYear d + 4716) / 100 + marchDay d := by
    rw [marchDay]
    omega
  have yearOf : (100 * (36525 * (marchYear d + 4716) / 100 + marchDay d) - 12210).tdiv 36525 = marchYear d + 4716 := by
    rw [Int.tdiv_eq_ediv_of_nonneg (by omega)]
    by_cases full : marchDay d = 488
    · have leaps := leap (last full)
      omega
    · omega
  have days : (36525 * ((marchYear d + 4716) % 32768)).tdiv 100 = 36525 * (marchYear d + 4716) / 100 := by
    rw [Int.emod_eq_of_lt (by omega) (by omega), Int.tdiv_eq_ediv_of_nonneg (by omega)]
  have monthOf' : (10000 * (36525 * (marchYear d + 4716) / 100 + marchDay d - 36525 * (marchYear d + 4716) / 100)).tdiv 306001
      = marchMonth d + 1 := by
    rw [add_sub_cancel_left, Int.tdiv_eq_ediv_of_nonneg (by omega), monthOf]
  rw [ofCount]
  simp only [noon, julian, yearOf, days, monthOf']
  have told : (if marchMonth d + 1 < 14 then marchMonth d + 1 - 1 else marchMonth d + 1 - 13) = d.month := by
    have known := Date.month_of_isValid valid
    simp only [marchMonth]
    split <;> split <;> omega
  rw [told, Int.tdiv_eq_ediv_of_nonneg (by omega), ofDate, mk.injEq]
  refine ⟨?_, rfl, ?_⟩
  · rw [marchYear]
    split <;> split <;> omega
  · rw [marchDay]
    omega

/-! ## Days as texts -/

theorem writes_lastDigits {count : Nat} (positive : 0 < count) (n : Int) :
    Decimal.Writes (lastDigits count n) count (n.natAbs % 10 ^ count) :=
  Decimal.writes_padded positive (Nat.mod_lt _ (Nat.pow_pos (by decide)))

theorem lastDigits_lt_iff {count : Nat} (positive : 0 < count) {m n : Int} (first : 0 ≤ m) (first' : 0 ≤ n)
    (last : m < 10 ^ count) (last' : n < 10 ^ count) :
    (lastDigits count m < lastDigits count n ↔ m < n) ∧ (lastDigits count m = lastDigits count n ↔ m = n) := by
  obtain ⟨m, rfl⟩ := Int.eq_ofNat_of_zero_le first
  obtain ⟨n, rfl⟩ := Int.eq_ofNat_of_zero_le first'
  have writes := writes_lastDigits positive m
  have writes' := writes_lastDigits positive n
  rw [Int.natAbs_natCast, Nat.mod_eq_of_lt (by exact_mod_cast last)] at writes
  rw [Int.natAbs_natCast, Nat.mod_eq_of_lt (by exact_mod_cast last')] at writes'
  constructor
  · rw [Decimal.lt_iff_digitsValue_lt writes.all writes'.all (writes.length.trans writes'.length.symm), writes.value,
      writes'.value, Int.ofNat_lt]
  · constructor
    · intro same
      rw [← writes.value, ← writes'.value, same]
    · intro same
      rw [same]

theorem append_lt_append_iff {front front' back back' : List Char} (length : front.length = front'.length) :
    front ++ back < front' ++ back' ↔ front < front' ∨ front = front' ∧ back < back' := by
  induction front generalizing front' with
  | nil =>
      obtain rfl := List.eq_nil_of_length_eq_zero length.symm
      simp
  | cons c front ih =>
      cases front' with
      | nil => exact absurd length (by simp)
      | cons d front' =>
          rw [List.cons_append, List.cons_append, List.cons_lt_cons_iff, List.cons_lt_cons_iff, ih (Nat.succ.inj length),
            List.cons.injEq]
          tauto

/-- Days of years with four digits are written in their order. -/
theorem text_lt_iff {d d' : Date} (valid : d.isValid = true) (valid' : d'.isValid = true) (least : 0 ≤ d.year)
    (least' : 0 ≤ d'.year) (most : d.year ≤ 9999) (most' : d'.year ≤ 9999) :
    (ofDate d).text < (ofDate d').text ↔ d.Precedes d' := by
  have written (d : Date) (least : 0 ≤ d.year) : (ofDate d).text.toList
      = lastDigits 4 d.year ++ ('-' :: (lastDigits 2 d.month ++ '-' :: lastDigits 2 d.day)) := by
    have unsigned : ¬(ofDate d).year < 0 := by simpa [ofDate] using least
    rw [text, String.toList_ofList, if_neg unsigned]
    simp [ofDate]
  have month := Date.month_of_isValid valid
  have month' := Date.month_of_isValid valid'
  have day := Date.day_of_isValid valid
  have day' := Date.day_of_isValid valid'
  have sameLength (count : Nat) (positive : 0 < count) (m n : Int) : (lastDigits count m).length = (lastDigits count n).length :=
    (writes_lastDigits positive m).length.trans (writes_lastDigits positive n).length.symm
  obtain ⟨yearLess, yearSame⟩ := @lastDigits_lt_iff 4 (by decide) d.year d'.year least least' (by omega) (by omega)
  obtain ⟨monthLess, monthSame⟩ := @lastDigits_lt_iff 2 (by decide) d.month d'.month (by omega) (by omega) (by omega) (by omega)
  obtain ⟨dayLess, _⟩ := @lastDigits_lt_iff 2 (by decide) d.day d'.day (by omega) (by omega) (by omega) (by omega)
  rw [String.lt_iff_toList_lt, written d least, written d' least', append_lt_append_iff (sameLength 4 (by decide) _ _),
    List.cons_lt_cons_iff, append_lt_append_iff (sameLength 2 (by decide) _ _), List.cons_lt_cons_iff, yearLess, yearSame,
    monthLess, monthSame, dayLess, Date.Precedes]
  have irreflexive : ¬ ('-' < '-') := by decide
  simp only [irreflexive, false_or, true_and]
  omega

end Day

end Datasheet.Sql
