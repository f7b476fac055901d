import Datasheet.Filter.CellTest
import Datasheet.Proofs.Calendar.Notations

/-! # Normalized dates

A moment is written in ISO-8601 so that it is read back as itself, with its offset, its fraction of a second and its leap
second. A cell whose date is normalized therefore holds the same moment as before, and normalizing it again changes nothing.
-/

namespace Datasheet

open Text Decimal

namespace Calendar

variable {m : Moment} {cs rest : List Char}

/-! ## What is read is proper -/

theorem readFraction_lt {nanosecond : Nat} (read : readFraction cs = some (nanosecond, rest)) : nanosecond < 1000000000 := by
  rw [readFraction.eq_def] at read
  split at read
  next start =>
      simp only at read
      split at read
      next => exact absurd read (by simp)
      next =>
          obtain ⟨rfl, _⟩ := Prod.mk.inj (Option.some.inj read)
          exact places_lt (fun c => List.mem_takeWhile_imp) 9
  next =>
      obtain ⟨rfl, _⟩ := Prod.mk.inj (Option.some.inj read)
      decide

/-- Every notation reads proper moments only. Of all parts only a fraction bounds a field that making the moment
    does not. -/
theorem isProper_of_read {form : DateNotation} {s : String} (read : form.read? s = some m) : m.IsProper := by
  cases form with
  | legacy =>
      obtain ⟨_, _, _, _, _, _, _, _, _, made⟩ := legacyNotation_of_readLegacy read
      exact Moment.isProper_of_make? made (by decide)
  | isoOffset =>
      cases isoNotation_of_read read with
      | full parts =>
          obtain ⟨_, _, _, _, _, _, _, nanoseconds, _, made⟩ := parts
          exact Moment.isProper_of_make? made (readFraction_lt nanoseconds)
      | offset _ _ made | zulu _ made => exact Moment.isProper_of_make? made (by decide)

/-! ## What is written is read -/

theorem readFraction_padded {width value : Nat} {zone : List Char} (positive : 0 < width) (few : width ≤ 9)
    (small : value < 10 ^ width) (stop : NoDigit zone) :
    readFraction ('.' :: (padded width value ++ zone)) = some (value * 10 ^ (9 - width), zone) := by
  have writes := writes_padded positive small
  have length := writes.length
  have solid : padded width value ≠ [] := List.ne_nil_of_length_pos (by omega)
  rw [readFraction_digits writes.all solid stop, List.take_of_length_le (by omega), writes.value, length]

theorem readFraction_fractionText {nanosecond : Nat} {zone : List Char} (small : nanosecond < 1000000000)
    (head : ∀ c ∈ zone.head?, c ≠ '.' ∧ c.isDigit = false) :
    readFraction (fractionText nanosecond ++ zone) = some (nanosecond, zone) := by
  have stop : NoDigit zone := fun c member => (head c member).2
  rw [fractionText]
  split
  next zero =>
      rw [zero, List.nil_append]
      exact readFraction_head fun c member => (head c member).1
  next =>
      split
      next milli =>
          rw [List.cons_append, readFraction_padded (by decide) (by decide) (by omega) stop]
          congr 2
          omega
      next =>
          split
          next micro =>
              rw [List.cons_append, readFraction_padded (by decide) (by decide) (by omega) stop]
              congr 2
              omega
          next =>
              rw [List.cons_append, readFraction_padded (by decide) (by decide) (by omega) stop]
              congr 2
              omega

theorem exists_zone {offset : Int} (west : -1440 < offset) (east : offset < 1440) :
    ∃ z : Zone, z.text = offsetText offset ∧ z.offset = offset := by
  refine ⟨⟨decide (offset < 0), ⟨offset.natAbs / 60, by omega⟩, ⟨offset.natAbs % 60, by omega⟩⟩, ?_, ?_⟩
  · simp only [Zone.text, offsetText, decide_eq_true_eq]
  · simp only [Zone.offset, decide_eq_true_eq]
    split <;> omega

theorem Moment.IsProper.exists_localMinute (proper : m.IsProper) (least : 0 ≤ m.date.year) (most : m.date.year ≤ 9999) :
    ∃ t : LocalMinute, t.date = m.date ∧ t.hour.val = m.hour ∧ t.minute.val = m.minute := by
  have month := Date.month_of_isValid proper.valid
  have day := Date.day_of_isValid proper.valid
  refine ⟨⟨⟨m.date.year.toNat, by omega⟩, ⟨m.date.month, by omega⟩, ⟨m.date.day, by omega⟩, ⟨m.hour, proper.hour⟩,
    ⟨m.minute, proper.minute⟩⟩, ?_, rfl, rfl⟩
  simp only [LocalMinute.date, Int.toNat_of_nonneg least]

theorem text_eq_isoText {t : LocalMinute} (date : t.date = m.date) (hour : t.hour.val = m.hour)
    (minute : t.minute.val = m.minute) : m.text = t.isoText (':' :: (padded 2 m.toldSecond
      ++ (fractionText m.toldNanosecond ++ offsetText m.offset))) := by
  have year : yearText (t.year.val : Int) = padded 4 t.year := by
    have small := t.year.isLt
    rw [yearText, if_pos (by omega), Int.toNat_natCast]
  simp only [Moment.text, Date.text, ← date, ← hour, ← minute, LocalMinute.date, year, LocalMinute.isoText,
    Moment.toldSecond, Moment.toldNanosecond, List.append_assoc, List.cons_append]

/-- A moment is read back from its text, if its year has four digits. -/
theorem Moment.IsProper.read?_iso (proper : m.IsProper) (least : 0 ≤ m.date.year) (most : m.date.year ≤ 9999) :
    DateNotation.isoOffset.read? m.iso = some m := by
  obtain ⟨t, date, hour, minute⟩ := proper.exists_localMinute least most
  obtain ⟨z, zone, offset⟩ := exists_zone proper.offset.1 proper.offset.2
  have writes : WritesZone (offsetText m.offset) m.offset := zone ▸ offset ▸ .signed z
  have fraction : readFraction (fractionText m.toldNanosecond ++ offsetText m.offset)
      = some (m.toldNanosecond, offsetText m.offset) :=
    readFraction_fractionText proper.toldNanosecond_lt fun c member => (writes.head c member).2
  have ends : EndsSolid (':' :: (padded 2 m.toldSecond ++ (fractionText m.toldNanosecond ++ offsetText m.offset))) :=
    .append [_] (.append _ (.append _ writes.endsSolid))
  have second : m.toldSecond < 100 := Nat.lt_of_le_of_lt proper.toldSecond_le (by decide)
  have full := readFull_full t second fraction writes.strict
  rw [date, hour, minute, proper.make?_told] at full
  simp only [DateNotation.read?, Moment.iso, String.toList_ofList, text_eq_isoText date hour minute, trim_isoText t ends,
    full, Option.some_or]

end Calendar

open Calendar

/-! ## Cells -/

theorem Filter.exists_dateTest {f : Filter} {ignoreCase : Bool} {operator : DateOperator} {test : CellTest}
    (dates : f.operator = .date operator) (made : f.test ignoreCase = .ok test) : ∃ target, test = .date operator target := by
  rw [Filter.test, dates] at made
  split at made
  next => exact absurd made (by simp)
  next same _ => exact absurd same (by simp)
  next same _ =>
      obtain rfl := Operator.date.inj same
      exact ⟨_, (Except.ok.inj made).symm⟩
  next same _ => exact absurd same (by simp)
  next => exact absurd made (by simp)

/-- A cell that holds a moment in a year of four digits is normalized to a text that holds the same moment, in ISO-8601 and
    in no other notation. The text stays when it is normalized again, and it passes the same filters of dates as the cell. -/
theorem normalizing_keeps_moments {s : String} {m : Moment}
    (read : DateNotation.readFirst? DateNotation.ofCells s = some m) (least : 0 ≤ m.date.year) (most : m.date.year ≤ 9999) :
    ∃ t, normalizeDate? s = some t ∧ DateNotation.isoOffset.read? t = some m ∧ DateNotation.legacy.read? t = none
      ∧ normalizeDate? t = some t
      ∧ ∀ (f : Filter) (operator : DateOperator) (ignoreCase : Bool) (test : CellTest), f.operator = .date operator →
          f.test ignoreCase = .ok test → test.holds t = test.holds s := by
  obtain ⟨form, _, read'⟩ := DateNotation.readFirst?_eq_some_iff.1 read
  have iso := (isProper_of_read read').read?_iso least most
  have again : DateNotation.readFirst? DateNotation.ofCells m.iso = some m :=
    DateNotation.readFirst?_eq_some_iff.2 ⟨.isoOffset, List.mem_cons_self, iso⟩
  refine ⟨m.iso, ?_, iso, ?_, ?_, ?_⟩
  · rw [normalizeDate?, read, Option.map_some]
  · by_contra known
    obtain ⟨m', old⟩ := Option.ne_none_iff_exists'.1 known
    exact absurd (DateNotation.eq_of_read iso old) (by decide)
  · rw [normalizeDate?, again, Option.map_some]
  · intro f operator ignoreCase test dates made
    obtain ⟨target, rfl⟩ := Filter.exists_dateTest dates made
    rw [CellTest.holds, CellTest.holds, again, read]

/-- A leap second with a fraction, between blanks and told west of Greenwich, keeps its second and its offset. -/
theorem normalizing_keeps_moments_leapSecond :
    normalizeDate? " 2016-12-31t18:59:60.0625-05:00 " = some "2016-12-31T18:59:60.062500-05:00"
      ∧ normalizeDate? "2016-12-31T18:59:60.062500-05:00" = some "2016-12-31T18:59:60.062500-05:00" := by
  obtain ⟨t, told, _, _, again, _⟩ := @normalizing_keeps_moments " 2016-12-31t18:59:60.0625-05:00 "
    ⟨⟨2016, 12, 31⟩, 18, 59, 59, 1062500000, -300⟩ (by decide +kernel) (by decide) (by decide)
  have same : some t = some "2016-12-31T18:59:60.062500-05:00" := told.symm.trans (by decide +kernel)
  obtain rfl := Option.some.inj same
  exact ⟨told, again⟩

end Datasheet
