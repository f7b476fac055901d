import Datasheet.Calendar.Moment
import Datasheet.Proofs.Calendar.Days

/-! # Moments that can be made

A moment is made of fields within their bounds, a day that exists and an offset of less than a day. A second of 60 is kept
as the last second of its minute, and its nanoseconds count on. Written back as second 60, it makes the same moment.
-/

namespace Datasheet.Calendar

namespace Moment

variable {date : Date} {hour minute second nanosecond : Nat} {offset : Int} {m : Moment}

theorem make?_eq_some_iff : make? date hour minute second nanosecond offset = some m
    ↔ (date.isValid = true ∧ (-262143 ≤ date.year ∧ date.year ≤ 262142) ∧ hour < 24 ∧ minute < 60 ∧ second ≤ 60
        ∧ -1440 < offset ∧ offset < 1440)
      ∧ (if second = 60 then ⟨date, hour, minute, 59, 1000000000 + nanosecond, offset⟩
          else ⟨date, hour, minute, second, nanosecond, offset⟩) = m ∧ m.isInRange = true := by
  simp only [make?, Option.ite_none_right_eq_some, Option.some.injEq, Bool.and_eq_true, decide_eq_true_eq, and_assoc]
  constructor
  · rintro ⟨valid, first, last, hours, minutes, seconds, west, east, inRange, rfl⟩
    exact ⟨valid, first, last, hours, minutes, seconds, west, east, rfl, inRange⟩
  · rintro ⟨valid, first, last, hours, minutes, seconds, west, east, rfl, inRange⟩
    exact ⟨valid, first, last, hours, minutes, seconds, west, east, inRange, rfl⟩

theorem make?_of_invalid (invalid : date.isValid = false) (hour minute second nanosecond : Nat) (offset : Int) :
    make? date hour minute second nanosecond offset = none := by
  simp [make?, invalid]

theorem isInRange_of_year (valid : m.date.isValid = true) (least : 0 ≤ m.date.year) (most : m.date.year ≤ 9999)
    (seconds : m.secondOfDay < 86400) (west : -1440 < m.offset) (east : m.offset < 1440) : m.isInRange = true := by
  have after : (Date.mk (-1) 1 1).dayNumber < m.date.dayNumber :=
    Date.dayNumber_lt_of_precedes (by decide) valid (.inl (Int.lt_of_lt_of_le (by decide) least))
  have before : m.date.dayNumber < (Date.mk 10000 1 1).dayNumber :=
    Date.dayNumber_lt_of_precedes valid (by decide) (.inl (Int.lt_of_le_of_lt most (by decide)))
  have bounds : firstDay < (Date.mk (-1) 1 1).dayNumber - 2 ∧ (Date.mk 10000 1 1).dayNumber + 2 < lastDay := by decide
  rw [isInRange, Moment.seconds]
  simp only [Bool.and_eq_true, decide_eq_true_eq]
  omega

/-! ## Fields as they are written -/

/-- The second of a moment, 60 in a leap second. -/
def toldSecond (m : Moment) : Nat := if 1000000000 ≤ m.nanosecond then m.second + 1 else m.second

/-- The nanosecond of a moment within its told second. -/
def toldNanosecond (m : Moment) : Nat := if 1000000000 ≤ m.nanosecond then m.nanosecond - 1000000000 else m.nanosecond

/-- A moment that can be made of fields. Only the last second of a minute is followed by a leap second. -/
structure IsProper (m : Moment) : Prop where
  valid : m.date.isValid = true
  year : -262143 ≤ m.date.year ∧ m.date.year ≤ 262142
  hour : m.hour < 24
  minute : m.minute < 60
  second : m.second < 60
  leap : 1000000000 ≤ m.nanosecond → m.second = 59
  nanosecond : m.nanosecond < 2000000000
  offset : -1440 < m.offset ∧ m.offset < 1440
  inRange : m.isInRange = true

theorem isProper_of_make? (made : make? date hour minute second nanosecond offset = some m)
    (small : nanosecond < 1000000000) : m.IsProper := by
  obtain ⟨⟨valid, year, hours, minutes, seconds, west, east⟩, same, inRange⟩ := make?_eq_some_iff.1 made
  split at same
  next =>
      subst same
      exact ⟨valid, year, hours, minutes, (by decide : 59 < 60), fun _ => rfl,
        (by omega : 1000000000 + nanosecond < 2000000000), ⟨west, east⟩, inRange⟩
  next ordinary =>
      subst same
      exact ⟨valid, year, hours, minutes, (by omega : second < 60), fun leap => absurd small (Nat.not_lt.2 leap),
        (by omega : nanosecond < 2000000000), ⟨west, east⟩, inRange⟩

theorem IsProper.toldNanosecond_lt (proper : m.IsProper) : m.toldNanosecond < 1000000000 := by
  have small := proper.nanosecond
  rw [toldNanosecond]
  split <;> omega

theorem IsProper.toldSecond_le (proper : m.IsProper) : m.toldSecond ≤ 60 := by
  have small := proper.second
  rw [toldSecond]
  split <;> omega

/-- The fields of a moment make it again. -/
theorem IsProper.make?_told (proper : m.IsProper) :
    make? m.date m.hour m.minute m.toldSecond m.toldNanosecond m.offset = some m := by
  refine make?_eq_some_iff.2 ⟨⟨proper.valid, proper.year, proper.hour, proper.minute, proper.toldSecond_le,
    proper.offset⟩, ?_, proper.inRange⟩
  obtain ⟨date, hour, minute, second, nanosecond, offset⟩ := m
  by_cases leap : 1000000000 ≤ nanosecond
  · obtain rfl : second = 59 := proper.leap leap
    simp only [toldSecond, toldNanosecond, leap, if_true, Nat.add_sub_cancel' leap]
  · have ordinary : ¬second = 60 := Nat.ne_of_lt proper.second
    simp only [toldSecond, toldNanosecond, leap, if_false, ordinary]

end Moment

end Datasheet.Calendar
