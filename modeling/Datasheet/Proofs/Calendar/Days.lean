import Mathlib.Tactic.IntervalCases
import Datasheet.Calendar.Moment

/-! # The order of days

Days that exist are numbered without gaps and in the order of their dates.
-/

namespace Datasheet.Calendar

theorem daysBeforeYear_mono {year later : Int} (le : year ≤ later) : daysBeforeYear year ≤ daysBeforeYear later := by
  simp only [daysBeforeYear]
  omega

theorem daysBeforeYear_succ (year : Int) :
    daysBeforeYear (year + 1) = daysBeforeYear year + daysBeforeMonth year 13 := by
  have leap : isLeapYear year = true ↔ year % 4 = 0 ∧ (year % 100 ≠ 0 ∨ year % 400 = 0) := by simp [isLeapYear]
  simp only [daysBeforeYear, daysBeforeMonth, daysInMonth, leap]
  split <;> omega

theorem daysBeforeMonth_mono {month later : Nat} (year : Int) (le : month ≤ later) :
    daysBeforeMonth year month ≤ daysBeforeMonth year later := by
  induction later, le using Nat.le_induction with
  | base => exact Nat.le_refl _
  | succ later _ ih => exact ih.trans (Nat.le_add_right _ _)

namespace Date

theorem isValid_iff {d : Date} : d.isValid = true ↔ 1 ≤ d.day ∧ d.day ≤ daysInMonth d.year d.month := by simp [isValid]

theorem month_of_isValid {d : Date} (valid : d.isValid = true) : 1 ≤ d.month ∧ d.month ≤ 12 := by
  obtain ⟨first, last⟩ := isValid_iff.1 valid
  by_contra invalid
  have empty : daysInMonth d.year d.month = 0 := by
    rw [daysInMonth.eq_def]
    split <;> omega
  omega

theorem day_of_isValid {d : Date} (valid : d.isValid = true) : 1 ≤ d.day ∧ d.day ≤ 31 := by
  obtain ⟨first, last⟩ := isValid_iff.1 valid
  have most : daysInMonth d.year d.month ≤ 31 := by
    rw [daysInMonth.eq_def]
    repeat' split
    all_goals omega
  omega

/-- The first date is an earlier one. -/
def Precedes (d d' : Date) : Prop :=
  d.year < d'.year ∨ d.year = d'.year ∧ (d.month < d'.month ∨ d.month = d'.month ∧ d.day < d'.day)

theorem precedes_cases (d d' : Date) : d.Precedes d' ∨ d = d' ∨ d'.Precedes d := by
  obtain ⟨year, month, day⟩ := d
  obtain ⟨year', month', day'⟩ := d'
  simp only [Precedes, mk.injEq]
  omega

/-- A day is numbered after the days before its year and before those of the next year. -/
theorem dayNumber_bounds {d : Date} (valid : d.isValid = true) :
    daysBeforeYear d.year < d.dayNumber + 719163 ∧ d.dayNumber + 719163 ≤ daysBeforeYear (d.year + 1) := by
  obtain ⟨first, last⟩ := isValid_iff.1 valid
  have months : daysBeforeMonth d.year (d.month + 1) ≤ daysBeforeMonth d.year 13 :=
    daysBeforeMonth_mono _ (by have := month_of_isValid valid; omega)
  have here : daysBeforeMonth d.year (d.month + 1) = daysBeforeMonth d.year d.month + daysInMonth d.year d.month := rfl
  have whole := daysBeforeYear_succ d.year
  rw [dayNumber]
  omega

theorem dayNumber_lt_of_precedes {d d' : Date} (valid : d.isValid = true) (valid' : d'.isValid = true)
    (precedes : d.Precedes d') : d.dayNumber < d'.dayNumber := by
  obtain ⟨first, last⟩ := isValid_iff.1 valid
  obtain ⟨first', last'⟩ := isValid_iff.1 valid'
  rcases precedes with year | ⟨year, month | ⟨month, day⟩⟩
  · have before := (dayNumber_bounds valid).2
    have after := (dayNumber_bounds valid').1
    have years := daysBeforeYear_mono (by omega : d.year + 1 ≤ d'.year)
    omega
  · have months := daysBeforeMonth_mono d.year month
    have here : daysBeforeMonth d.year (d.month + 1) = daysBeforeMonth d.year d.month + daysInMonth d.year d.month := rfl
    rw [Nat.succ_eq_add_one, here] at months
    simp only [dayNumber, ← year]
    omega
  · simp only [dayNumber, ← year, ← month]
    omega

/-- Days that exist are numbered in the order of their dates. -/
theorem dayNumber_lt_iff {d d' : Date} (valid : d.isValid = true) (valid' : d'.isValid = true) :
    d.dayNumber < d'.dayNumber ↔ d.Precedes d' := by
  refine ⟨fun less => ?_, dayNumber_lt_of_precedes valid valid'⟩
  rcases precedes_cases d d' with precedes | rfl | follows
  · exact precedes
  · exact absurd less (Int.lt_irrefl _)
  · have := dayNumber_lt_of_precedes valid' valid follows
    omega

theorem eq_of_dayNumber_eq {d d' : Date} (valid : d.isValid = true) (valid' : d'.isValid = true)
    (same : d.dayNumber = d'.dayNumber) : d = d' := by
  rcases precedes_cases d d' with precedes | same' | follows
  · exact absurd same (dayNumber_lt_of_precedes valid valid' precedes).ne
  · exact same'
  · exact absurd same (dayNumber_lt_of_precedes valid' valid follows).ne'

/-- The day after. -/
def next (d : Date) : Date :=
  if d.day < daysInMonth d.year d.month then ⟨d.year, d.month, d.day + 1⟩
  else if d.month < 12 then ⟨d.year, d.month + 1, 1⟩
  else ⟨d.year + 1, 1, 1⟩

theorem daysInMonth_pos (year : Int) {month : Nat} (least : 1 ≤ month) (most : month ≤ 12) : 0 < daysInMonth year month := by
  interval_cases month <;> simp only [daysInMonth] <;> first | decide | split <;> decide

theorem next_spec {d : Date} (valid : d.isValid = true) : d.next.isValid = true ∧ d.next.dayNumber = d.dayNumber + 1 := by
  obtain ⟨first, last⟩ := isValid_iff.1 valid
  obtain ⟨least, most⟩ := month_of_isValid valid
  rw [next]
  split
  next inside =>
      refine ⟨isValid_iff.2 ⟨by simp, inside⟩, ?_⟩
      simp only [dayNumber]
      omega
  next atEnd =>
      have full : d.day = daysInMonth d.year d.month := by omega
      split
      next =>
          have here : daysBeforeMonth d.year (d.month + 1) = daysBeforeMonth d.year d.month + daysInMonth d.year d.month := rfl
          have days := daysInMonth_pos d.year (Nat.le_add_left 1 d.month) (by omega)
          refine ⟨isValid_iff.2 ⟨Nat.le_refl _, days⟩, ?_⟩
          simp only [dayNumber, here]
          omega
      next =>
          have december : d.month = 12 := by omega
          have whole := daysBeforeYear_succ d.year
          have here : daysBeforeMonth d.year 13 = daysBeforeMonth d.year 12 + daysInMonth d.year 12 := rfl
          have january : daysBeforeMonth (d.year + 1) 1 = 0 := rfl
          rw [december] at full
          refine ⟨isValid_iff.2 ⟨Nat.le_refl _, daysInMonth_pos _ (Nat.le_refl _) (by simp)⟩, ?_⟩
          simp only [dayNumber, december, january]
          omega

theorem exists_dayNumber {start : Date} (valid : start.isValid = true) {n : Int} (le : start.dayNumber ≤ n) :
    ∃ d : Date, d.isValid = true ∧ d.dayNumber = n := by
  induction n, le using Int.leInduction with
  | base => exact ⟨start, valid, rfl⟩
  | succ n _ ih =>
      obtain ⟨d, valid, rfl⟩ := ih
      exact ⟨d.next, next_spec valid⟩

end Date

end Datasheet.Calendar
