import Datasheet.Proofs.Calendar.Moments
import Datasheet.Proofs.Number.Figures
import Datasheet.Proofs.Sql.Stamps

/-! # Both readings of a moment

A text that the engine reads as a date with a time of day is read part by part by the readers of cells. Where they read a
moment too, it has the same parts.
-/

namespace Datasheet

open Text Calendar

namespace Decimal

variable {digits : List Char} {count n : Nat}

theorem Writes.colon (writes : Writes digits count n) : ':' ∉ digits :=
  fun member => absurd (writes.all ':' member) (by decide)

theorem Writes.readYear (writes : Writes digits 4 n) (negative : Bool) (rest : List Char) :
    readYear ((if negative then ['-'] else []) ++ (digits ++ '-' :: rest))
      = some (if negative then -(n : Int) else n, '-' :: rest) := by
  have stop : NoDigit ('-' :: rest) := noDigit_cons rest (by decide)
  cases negative with
  | true =>
      have atLeastOne : 1 ≤ digits.length := by
        rw [writes.length]
        decide
      have few : digits.length ≤ (digits ++ '-' :: rest).length := by simp
      have whole := readDigits_stop writes.all atLeastOne few stop
      rw [Calendar.readYear, if_pos rfl, List.singleton_append, trimStart_of_solid _ (by decide)]
      simp only [whole, writes.value]
      rfl
  | false => exact writes.readUnsigned (Nat.le_refl _) stop

end Decimal

namespace Sql.Stamp

open Decimal

variable {years months days gap hours minutes seconds blanks zone : List Char}
  {year month day hour minute second nanosecond : Nat} {offset : Int} {date : Date} {m : Moment}

/-! ## After the minutes -/

theorem ne_mark_of_isBlank {c : Char} (blank : isBlank c = true) : c ≠ ':' ∧ c ≠ '.' ∧ c.isDigit = false := by
  refine ⟨?_, ?_, ?_⟩
  · rintro rfl
    exact absurd blank (by decide)
  · rintro rfl
    exact absurd blank (by decide)
  · by_contra digit
    exact absurd (isBlank_digit (by simpa using digit)) (by simp [blank])

theorem WritesOffset.head (writes : WritesOffset zone offset) (blank : ∀ c ∈ blanks, isBlank c = true) :
    ∀ c ∈ (blanks ++ zone).head?, c ≠ ':' ∧ c ≠ '.' ∧ c.isDigit = false := by
  cases blanks with
  | cons b blanks =>
      intro c member
      obtain rfl : b = c := Option.some.inj member
      exact ne_mark_of_isBlank (blank b List.mem_cons_self)
  | nil =>
      cases writes with
      | none => exact fun c member => absurd member (by simp)
      | zulu letter =>
          intro c member
          obtain rfl := Option.some.inj member
          rcases letter with rfl | rfl <;> decide
      | signed west =>
          intro c member
          obtain rfl := Option.some.inj member
          cases west <;> decide

theorem WritesOffset.trimStart (writes : WritesOffset zone offset) (blank : ∀ c ∈ blanks, isBlank c = true) :
    trimStart (blanks ++ zone) = zone := by
  rw [Text.trimStart, List.dropWhile_append_of_pos blank]
  cases writes with
  | none => rfl
  | zulu letter => rcases letter with rfl | rfl <;> exact trimStart_of_solid _ (by decide)
  | signed west => exact trimStart_of_solid _ (by cases west <;> decide)

theorem WritesOffset.strict (writes : WritesOffset zone offset) (blank : ∀ c ∈ blanks, isBlank c = true)
    {rest : List Char} {told : Int} (read : readStrictOffset (blanks ++ zone) = some (told, rest)) : told = offset ∧ rest = [] := by
  cases blanks with
  | cons b blanks =>
      have first := blank b List.mem_cons_self
      rw [readStrictOffset.eq_def] at read
      split at read
      next same =>
          rw [(List.cons.inj same).1] at first
          exact absurd first (by decide)
      next same =>
          rw [(List.cons.inj same).1] at first
          exact absurd first (by decide)
      next =>
          have unsigned : readOffsetSign (b :: blanks ++ zone) = Option.none := by
            rw [List.cons_append, readOffsetSign, if_neg, if_neg]
            · rintro (rfl | rfl) <;> exact absurd first (by decide)
            · rintro rfl
              exact absurd first (by decide)
          rw [readOffset, unsigned] at read
          exact absurd read (by simp)
  | nil =>
      rw [List.nil_append] at read
      cases writes with
      | none => exact absurd read (by simp [readStrictOffset, readOffset, readOffsetSign])
      | zulu letter =>
          rcases letter with rfl | rfl
          · obtain ⟨rfl, rfl⟩ := Prod.mk.inj (Option.some.inj read)
            exact ⟨rfl, rfl⟩
          · obtain ⟨rfl, rfl⟩ := Prod.mk.inj (Option.some.inj read)
            exact ⟨rfl, rfl⟩
      | @signed hours minutes hour minute west writes writes' most =>
          rw [readStrictOffset_signed west writes writes' most] at read
          obtain ⟨rfl, rfl⟩ := Prod.mk.inj (Option.some.inj read)
          exact ⟨rfl, rfl⟩

theorem WritesOffset.loose (writes : WritesOffset zone offset) (blank : ∀ c ∈ blanks, isBlank c = true)
    {rest : List Char} {told : Int} (read : readLooseOffset (blanks ++ zone) = some (told, rest)) : told = offset ∧ rest = [] := by
  have bare : Text.trimStart ([] ++ zone) = zone := writes.trimStart (List.forall_mem_nil _)
  have front : readLooseOffset (blanks ++ zone) = readLooseOffset zone := by
    rw [readLooseOffset, readLooseOffset, writes.trimStart blank, ← List.nil_append zone, bare, List.nil_append]
  have unsigned : readLooseOffset [] = Option.none ∧ readLooseOffset ['Z'] = Option.none
      ∧ readLooseOffset ['z'] = Option.none := ⟨rfl, rfl, rfl⟩
  rw [front] at read
  cases writes with
  | none => exact absurd read (by simp [unsigned.1])
  | zulu letter => rcases letter with rfl | rfl <;> exact absurd read (by simp [unsigned.2])
  | @signed hours minutes hour minute west writes writes' most =>
      rw [readLooseOffset_signed west writes writes' most] at read
      obtain ⟨rfl, rfl⟩ := Prod.mk.inj (Option.some.inj read)
      exact ⟨rfl, rfl⟩

theorem WritesSeconds.full (writes : WritesSeconds seconds second nanosecond) (writesOffset : WritesOffset zone offset)
    (blank : ∀ c ∈ blanks, isBlank c = true) {afterMinute fraction zone' : List Char} {second' nanosecond' : Nat}
    {offset' : Int} (same : seconds ++ (blanks ++ zone) = ':' :: afterMinute)
    (secondsRead : readDigits 2 2 afterMinute = some (second', fraction))
    (nanosecondsRead : readFraction fraction = some (nanosecond', zone'))
    (offsetsRead : readStrictOffset zone' = some (offset', [])) :
    second' = second ∧ nanosecond' = nanosecond ∧ offset' = offset := by
  have head := writesOffset.head blank
  cases writes with
  | none =>
      rw [List.nil_append] at same
      exact absurd rfl (head ':' (by rw [same, List.head?_cons, Option.mem_def])).1
  | whole two most =>
      obtain ⟨_, rfl⟩ := List.cons.inj same
      obtain ⟨rfl, rfl⟩ := eq_of_reads (two.readTwo _) secondsRead
      obtain ⟨rfl, rfl⟩ := eq_of_reads (readFraction_head fun c member => (head c member).2.1) nanosecondsRead
      exact ⟨rfl, rfl, (writesOffset.strict blank offsetsRead).1⟩
  | @fraction seconds digits _ two most all nonempty =>
      have stop : NoDigit (blanks ++ zone) := fun c member => (head c member).2.2
      rw [List.cons_append, List.append_assoc, List.cons_append] at same
      obtain ⟨_, rfl⟩ := List.cons.inj same
      obtain ⟨rfl, rfl⟩ := eq_of_reads (two.readTwo _) secondsRead
      obtain ⟨rfl, rfl⟩ := eq_of_reads (readFraction_digits all nonempty stop) nanosecondsRead
      exact ⟨rfl, rfl, (writesOffset.strict blank offsetsRead).1⟩

/-! ## Up to the minutes -/

theorem isDigit_gap {c : Char} (space : isSpace c = true ∨ c = 'T') : c.isDigit = false := by
  rcases space with space | rfl
  · exact (ne_mark_of_isBlank (isBlank_of_isSpace space)).2.2
  · decide

theorem WritesDate.full {text : List Char} {day : Day} (writes : WritesDate text day)
    (gaps : ∀ c ∈ gap, isSpace c = true ∨ c = 'T') (writesHour : Writes hours 2 hour)
    (writesMinute : Writes minutes 2 minute) (writesSeconds : WritesSeconds seconds second nanosecond)
    (writesOffset : WritesOffset zone offset) (blank : ∀ c ∈ blanks, isBlank c = true)
    (parts : FullNotation (text ++ (gap ++ (hours ++ ':' :: (minutes ++ (seconds ++ (blanks ++ zone)))))) m) :
    ∃ d : Date, Day.ofDate d = day ∧ Moment.make? d hour minute second nanosecond offset = some m := by
  obtain ⟨yearsRead, monthsRead, daysRead, separates, hoursRead, minutesRead, secondsRead, nanosecondsRead, offsetsRead,
    made⟩ := parts
  cases writes with
  | @mk years months days year month day negative writesYear writesMonth writesDay =>
      cases negative with
      | true =>
          have hyphen : '-'.isDigit = false := by decide
          exact absurd ((readDigits_none (by decide) (noDigit_cons _ hyphen)).symm.trans yearsRead) (by simp)
      | false =>
          rw [if_neg Bool.false_ne_true, List.nil_append, List.append_assoc, List.cons_append, List.append_assoc,
            List.cons_append] at yearsRead
          obtain ⟨rfl, same⟩ := eq_of_reads (writesYear.readDigits _ (by decide) rfl) yearsRead
          obtain ⟨_, rfl⟩ := List.cons.inj same
          obtain ⟨rfl, same⟩ := eq_of_reads (writesMonth.readTwo _) monthsRead
          obtain ⟨_, rfl⟩ := List.cons.inj same
          obtain ⟨rfl, same⟩ := eq_of_reads (writesDay.readTwo _) daysRead
          cases gap with
          | nil =>
              obtain ⟨d, hours, rfl, digit⟩ := writesHour.exists_cons
              obtain ⟨rfl, rfl⟩ := List.cons.inj same
              rcases separates with rfl | rfl | rfl <;> exact absurd digit (by decide)
          | cons g gap =>
              obtain ⟨rfl, rfl⟩ := List.cons.inj same
              cases gap with
              | cons g' gap =>
                  have stop := isDigit_gap (gaps g' (by simp))
                  exact absurd ((readDigits_none (by decide) (noDigit_cons _ stop)).symm.trans hoursRead) (by simp)
              | nil =>
                  obtain ⟨rfl, same⟩ := eq_of_reads (writesHour.readTwo _) hoursRead
                  obtain ⟨_, rfl⟩ := List.cons.inj same
                  obtain ⟨rfl, same⟩ := eq_of_reads (writesMinute.readTwo _) minutesRead
                  obtain ⟨rfl, rfl, rfl⟩ := writesSeconds.full writesOffset blank same secondsRead nanosecondsRead offsetsRead
                  exact ⟨⟨year, month, day⟩, rfl, made⟩

theorem readPadded_gap {gap rest rest' : List Char} {n : Nat} (gaps : ∀ c ∈ gap, isSpace c = true ∨ c = 'T')
    (writes : Writes hours 2 hour) (read : readPadded (gap ++ (hours ++ rest)) = some (n, rest')) :
    n = hour ∧ rest' = rest := by
  induction gap with
  | nil =>
      rw [List.nil_append, writes.readPadded] at read
      obtain ⟨rfl, rfl⟩ := Prod.mk.inj (Option.some.inj read)
      exact ⟨rfl, rfl⟩
  | cons c gap ih =>
      obtain ⟨first, others⟩ := List.forall_mem_cons.1 gaps
      rcases first with space | rfl
      · refine ih others (Eq.trans ?_ read)
        simp [readPadded, trimStart, isBlank_of_isSpace space]
      · rw [readPadded, List.cons_append, trimStart_of_solid _ (by decide),
          readDigits_none (by decide) (noDigit_cons _ (by decide))] at read
        exact absurd read (by simp)

theorem WritesDate.upToMinutes {text rest rest' : List Char} {day : Day} {hour' minute' : Nat}
    (writes : WritesDate text day) (gaps : ∀ c ∈ gap, isSpace c = true ∨ c = 'T') (writesHour : Writes hours 2 hour)
    (writesMinute : Writes minutes 2 minute)
    (parts : MinutesNotation (text ++ (gap ++ (hours ++ ':' :: (minutes ++ rest)))) date hour' minute' rest') :
    Day.ofDate date = day ∧ hour' = hour ∧ minute' = minute ∧ rest' = rest := by
  obtain ⟨yearsRead, monthsRead, daysRead, hoursRead, minutesRead⟩ := parts
  cases writes with
  | @mk years months days year month day negative writesYear writesMonth writesDay =>
      rw [List.append_assoc, List.append_assoc, List.cons_append, List.append_assoc, List.cons_append] at yearsRead
      obtain ⟨rfl, same⟩ := eq_of_reads (writesYear.readYear negative _) yearsRead
      obtain ⟨_, rfl⟩ := List.cons.inj same
      obtain ⟨rfl, same⟩ := eq_of_reads (writesMonth.readPadded _) monthsRead
      obtain ⟨_, rfl⟩ := List.cons.inj same
      obtain ⟨rfl, same⟩ := eq_of_reads (writesDay.readPadded _) daysRead
      cases gap with
      | nil =>
          obtain ⟨d, hours, rfl, digit⟩ := writesHour.exists_cons
          obtain ⟨rfl, _⟩ := List.cons.inj same
          exact absurd digit (by decide)
      | cons g gap =>
          obtain ⟨rfl, rfl⟩ := List.cons.inj same
          obtain ⟨rfl, same⟩ := readPadded_gap (fun c member => gaps c (List.mem_cons_of_mem _ member)) writesHour hoursRead
          obtain ⟨_, rfl⟩ := List.cons.inj same
          obtain ⟨rfl, rfl⟩ := eq_of_reads (writesMinute.readPadded _) minutesRead
          exact ⟨rfl, rfl, rfl, rfl⟩

theorem WritesSeconds.loose (writes : WritesSeconds seconds second nanosecond) (writesOffset : WritesOffset zone offset)
    (blank : ∀ c ∈ blanks, isBlank c = true) {rest : List Char} {told : Int}
    (read : readLooseOffset (seconds ++ (blanks ++ zone)) = some (told, rest)) :
    second = 0 ∧ nanosecond = 0 ∧ told = offset ∧ rest = [] := by
  have colon (cs : List Char) : readLooseOffset (':' :: cs) = Option.none := by
    rw [readLooseOffset, trimStart_of_solid _ (by decide)]
    rfl
  cases writes with
  | none => exact ⟨rfl, rfl, writesOffset.loose blank read⟩
  | whole => exact absurd read (by simp [colon])
  | fraction => exact absurd read (by simp [colon])

theorem WritesSeconds.zulu (writes : WritesSeconds seconds second nanosecond) (writesOffset : WritesOffset zone offset)
    (blank : ∀ c ∈ blanks, isBlank c = true) (same : seconds ++ (blanks ++ zone) = ['Z']) :
    second = 0 ∧ nanosecond = 0 ∧ offset = 0 := by
  cases writes with
  | whole => exact absurd same (by simp)
  | fraction => exact absurd same (by simp)
  | none =>
      cases blanks with
      | cons b blanks =>
          have first := blank b List.mem_cons_self
          rw [(List.cons.inj same).1] at first
          exact absurd first (by decide)
      | nil =>
          cases writesOffset with
          | none => exact absurd same (by simp)
          | zulu => exact ⟨rfl, rfl, rfl⟩
          | signed west => exact absurd same (by simp)

/-- A text that the engine reads as a date with a time of day has the same parts for a cell that holds a moment. -/
theorem WritesDate.moment {text : List Char} {day : Day} (writes : WritesDate text day)
    (gaps : ∀ c ∈ gap, isSpace c = true ∨ c = 'T') (writesHour : Writes hours 2 hour)
    (writesMinute : Writes minutes 2 minute) (writesSeconds : WritesSeconds seconds second nanosecond)
    (writesOffset : WritesOffset zone offset) (blank : ∀ c ∈ blanks, isBlank c = true) {s : String}
    (same : trim s.toList = text ++ (gap ++ (hours ++ ':' :: (minutes ++ (seconds ++ (blanks ++ zone))))))
    (read : DateNotation.isoOffset.read? s = some m) :
    ∃ d : Date, Day.ofDate d = day ∧ Moment.make? d hour minute second nanosecond offset = some m := by
  have parts := isoNotation_of_read read
  rw [same] at parts
  cases parts with
  | full parts => exact writes.full gaps writesHour writesMinute writesSeconds writesOffset blank parts
  | offset start zoned made =>
      obtain ⟨told, rfl, rfl, rfl⟩ := writes.upToMinutes gaps writesHour writesMinute start
      obtain ⟨rfl, rfl, rfl, _⟩ := writesSeconds.loose writesOffset blank zoned
      exact ⟨_, told, made⟩
  | zulu start made =>
      obtain ⟨told, rfl, rfl, bare⟩ := writes.upToMinutes gaps writesHour writesMinute start
      obtain ⟨rfl, rfl, rfl⟩ := writesSeconds.zulu writesOffset blank bare.symm
      exact ⟨_, told, made⟩

/-! ## Ends of a text -/

theorem endsSolid_append {front back : List Char} (first : EndsSolid front) (rest : back = [] ∨ EndsSolid back) :
    EndsSolid (front ++ back) := by
  rcases rest with rfl | solid
  · rwa [List.append_nil]
  · exact solid.append front

theorem WritesOffset.endsSolid (writes : WritesOffset zone offset) (left : zone = [] → blanks = []) :
    blanks ++ zone = [] ∨ EndsSolid (blanks ++ zone) := by
  cases writes with
  | none => exact .inl (by simp [left rfl])
  | zulu letter => exact .inr ⟨blanks, _, rfl, by rcases letter with rfl | rfl <;> decide⟩
  | signed west _ writes' =>
      exact .inr (.append blanks (.append [_] (.append _ (.append [':'] writes'.endsSolid))))

theorem WritesSeconds.endsSolid (writes : WritesSeconds seconds second nanosecond) :
    seconds = [] ∨ EndsSolid seconds := by
  cases writes with
  | none => exact .inl rfl
  | whole two => exact .inr (.append [':'] two.endsSolid)
  | fraction _ _ all nonempty => exact .inr (.append [':'] (.append _ (.append ['.'] (endsSolid_digits nonempty all))))

theorem WritesDate.head {text : List Char} {day : Day} (writes : WritesDate text day) :
    ∃ c rest, text = c :: rest ∧ isBlank c = false := by
  cases writes with
  | mk negative writesYear =>
      cases negative with
      | true => exact ⟨_, _, rfl, by decide⟩
      | false =>
          obtain ⟨c, years, rfl, digit⟩ := writesYear.exists_cons
          exact ⟨c, _, rfl, isBlank_digit digit⟩

theorem trim_stamp {text : List Char} {day : Day} (writes : WritesDate text day) (writesMinute : Writes minutes 2 minute)
    (writesSeconds : WritesSeconds seconds second nanosecond) (writesOffset : WritesOffset zone offset)
    (left : zone = [] → blanks = []) (gap hours : List Char) {blanks' : List Char}
    (blank' : ∀ c ∈ blanks', isBlank c = true) :
    trim (text ++ (gap ++ (hours ++ ':' :: (minutes ++ (seconds ++ (blanks ++ (zone ++ blanks')))))))
      = text ++ (gap ++ (hours ++ ':' :: (minutes ++ (seconds ++ (blanks ++ zone))))) := by
  have zoned : seconds ++ (blanks ++ zone) = [] ∨ EndsSolid (seconds ++ (blanks ++ zone)) := by
    rcases writesOffset.endsSolid left with empty | solid
    · rw [empty, List.append_nil]
      exact writesSeconds.endsSolid
    · exact .inr (solid.append seconds)
  have solid : EndsSolid (text ++ (gap ++ (hours ++ ':' :: (minutes ++ (seconds ++ (blanks ++ zone)))))) :=
    .append text (.append gap (.append hours (.append [':'] (endsSolid_append writesMinute.endsSolid zoned))))
  obtain ⟨c, rest, rfl, first⟩ := writes.head
  simpa using trim_between first solid (List.forall_mem_nil _) blank'

/-! ## Other stamps -/

theorem WritesDate.year_le {text : List Char} {day : Day} (writes : WritesDate text day) : day.year ≤ 9999 := by
  cases writes with
  | mk negative writesYear =>
      have small := writesYear.value ▸ writesYear.length ▸ digitsValue_lt writesYear.all 0
      simp only
      split <;> omega

theorem WritesDate.colon {text : List Char} {day : Day} (writes : WritesDate text day) : ':' ∉ text := by
  cases writes with
  | mk negative writesYear writesMonth writesDay =>
      cases negative <;> simp [writesYear.colon, writesMonth.colon, writesDay.colon]

/-- A time of day without a date is no moment of a cell. -/
theorem read?_of_readTime? {s : String} {t : TimeOfDay} (time : readTime? s.toList = some t) :
    DateNotation.isoOffset.read? s = none := by
  obtain ⟨hours, hour, _, _, _, _, _, _, _, _, _, same, writes, _⟩ := readTime?_eq_some time
  obtain ⟨after, same⟩ : ∃ after, s.toList = hours ++ ':' :: after := ⟨_, same⟩
  have solid : EndsSolid (hours ++ [':']) := ⟨hours, ':', rfl, by decide⟩
  have shape : trim s.toList = hours ++ ':' :: trimEnd after := by
    rw [same, trim, writes.trimStart]
    simpa using solid.trimEnd_append after
  have stop : NoDigit (':' :: trimEnd after) := noDigit_cons _ (by decide)
  have short : readMinutes (hours ++ ':' :: trimEnd after) = none := by
    rw [readMinutes, writes.readUnsigned (by decide) stop]
    rfl
  rw [DateNotation.read?.eq_def, shape]
  simp only
  rw [readFull, writes.readDigits_short stop, readMinutesWithOffset, short, readMinutesWithZ, short]
  rfl

theorem colon_splitExponent {cs : List Char} (member : ':' ∈ cs) : ':' ∈ (Numeral.splitExponent cs).2 := by
  have foreign : IsForeign ':' := by decide
  unfold Numeral.splitExponent
  split
  next => exact member
  next c rest =>
      split
      next letter =>
          refine foreign.mem_digits (foreign.mem_sign ?_)
          rcases List.mem_cons.1 member with rfl | later
          · exact absurd letter (by decide)
          · exact later
      next => exact member

theorem colon_of_readCount? {cs : List Char} {stamp : Stamp} (read : readCount? cs = some stamp) : ':' ∉ cs := by
  intro member
  have foreign : IsForeign ':' := by decide
  have start : ':' ∈ cs.dropWhile isSpace := mem_dropWhile_of_not (by decide) member
  have rest := colon_splitExponent (foreign.mem_fraction (foreign.mem_digits (foreign.mem_sign start)))
  rw [readCount?] at read
  split at read
  next known =>
      have number : (Numeral.ofText cs).isComplete = true := by
        simp only [Numeral.isNumber, Bool.and_eq_true] at known
        exact known.1.1.1.1
      exact absurd (List.all_eq_true.1 number ':' rest) (by decide)
  next => exact absurd read (by simp)

theorem colon_of_readNow? {words : List String} (plain : ∀ word ∈ words, ':' ∉ word.toList) {cs : List Char}
    {stamp : Stamp} (read : readNow? words cs = some stamp) : ':' ∉ cs := by
  intro member
  rw [readNow?] at read
  split at read
  next word =>
      refine plain _ (List.contains_iff_mem.1 word) ?_
      rw [String.toList_ofList]
      exact List.mem_map.2 ⟨':', member, by decide⟩
  next => exact absurd read (by simp)

/-! ## The moment of a cell -/

/-- The engine reads a text as a moment, a day, a count of days or a word for its clock. -/
def Reads (s : String) : Prop := (ofText? (s.toList.takeWhile (·.toNat != 0))).isSome

instance (s : String) : Decidable (Reads s) :=
  inferInstanceAs (Decidable ((ofText? (s.toList.takeWhile (·.toNat != 0))).isSome = true))

theorem make?_eq_some (small : second < 60) (made : Moment.make? date hour minute second nanosecond offset = some m) :
    m = ⟨date, hour, minute, second, nanosecond, offset⟩ ∧ date.isValid = true ∧ hour < 24 ∧ minute < 60
      ∧ -1440 < offset ∧ offset < 1440 := by
  obtain ⟨⟨valid, _, hours, minutes, _, west, east⟩, same, _⟩ := Moment.make?_eq_some_iff.1 made
  rw [if_neg (Nat.ne_of_lt small)] at same
  exact ⟨same.symm, valid, hours, minutes, west, east⟩

theorem WritesSeconds.small (writes : WritesSeconds seconds second nanosecond) :
    second < 60 ∧ nanosecond < 1000000000 := by
  cases writes with
  | none => decide
  | whole _ most => exact ⟨by omega, by decide⟩
  | fraction _ most all => exact ⟨by omega, places_lt all 9⟩

/-- A cell that the engine reads as the moment `m`, but for the rounding of its milliseconds. -/
structure Tells (stamp : Stamp) (m : Moment) : Prop where
  valid : m.date.isValid = true
  year : m.date.year ≤ 9999
  hour : m.hour < 24
  minute : m.minute < 60
  second : m.second < 60
  nanosecond : m.nanosecond < 1000000000
  offset : -1440 < m.offset ∧ m.offset < 1440
  told : ∃ ms : Int, stamp = .moment (Day.ofDate m.date) ⟨3600000 * m.hour + 60000 * m.minute + ms, m.offset⟩
    ∧ 1000 * (m.second : Int) ≤ ms ∧ ms ≤ 1000 * m.second + (m.nanosecond / 1000000 : Nat) + 1

/-- No NUL stands in a cell that holds a moment, so the engine reads it to its end. -/
theorem takeWhile_of_read {s : String} (read : DateNotation.isoOffset.read? s = some m) :
    s.toList.takeWhile (·.toNat != 0) = s.toList := by
  refine List.takeWhile_eq_self_iff.2 fun c member => ?_
  rcases mem_trim_or member with kept | blank
  · simpa using (hasColon_of_read read).1 c kept
  · simpa using ne_zero_of_isBlank blank

theorem tells_of_readDate? {s : String} {stamp : Stamp} (read : DateNotation.isoOffset.read? s = some m)
    (told : readDate? s.toList = some stamp) : Tells stamp m := by
  obtain ⟨text, day, gap, clock, same, writes, gaps, ⟨rfl, _⟩ | ⟨t, time, rfl⟩⟩ := readDate?_eq_some told
  -- A date without a time of day has no colon.
  · refine absurd (trim_subset _ (hasColon_of_read read).2) ?_
    rw [same, List.append_nil, List.mem_append, not_or]
    refine ⟨writes.colon, fun member => ?_⟩
    rcases gaps ':' member with space | other
    · exact absurd space (by decide)
    · exact absurd other (by decide)
  · obtain ⟨hours, hour, minutes, minute, seconds, second, nanosecond, blanks, zone, blanks', ms, rfl, writesHour,
      writesMinute, writesSeconds, writesOffset, blank, blank', left, shownTime, low, high⟩ := readTime?_eq_some time
    have shape : trim s.toList = text ++ (gap ++ (hours ++ ':' :: (minutes ++ (seconds ++ (blanks ++ zone))))) := by
      rw [same, trim_stamp writes writesMinute writesSeconds writesOffset left gap hours blank']
    obtain ⟨d, rfl, made⟩ := writes.moment gaps writesHour writesMinute writesSeconds writesOffset blank shape read
    obtain ⟨small, small'⟩ := writesSeconds.small
    obtain ⟨rfl, valid, sameHour, sameMinute, offset⟩ := make?_eq_some small made
    refine ⟨valid, writes.year_le, sameHour, sameMinute, small, small', offset, ms, ?_, low, high⟩
    rw [← shownTime]

/-- What a cell holds as a moment, the engine reads as this moment or does not read. -/
theorem tells_of_read {s : String} {stamp : Stamp} (read : DateNotation.isoOffset.read? s = some m)
    (told : ofText? (s.toList.takeWhile (·.toNat != 0)) = some stamp) : Tells stamp m := by
  rw [takeWhile_of_read read] at told
  rcases Option.or_eq_some_iff.1 told with date | ⟨_, told⟩
  · exact tells_of_readDate? read date
  rcases Option.or_eq_some_iff.1 told with time | ⟨_, told⟩
  · obtain ⟨t, time, _⟩ := Option.map_eq_some_iff.1 time
    exact absurd (read.symm.trans (read?_of_readTime? time)) (by simp)
  have colon := trim_subset _ (hasColon_of_read read).2
  rcases Option.or_eq_some_iff.1 told with now | ⟨_, told⟩
  · exact absurd colon (colon_of_readNow? (by decide) now)
  rcases Option.or_eq_some_iff.1 told with count | ⟨_, now⟩
  · exact absurd colon (colon_of_readCount? count)
  · exact absurd colon (colon_of_readNow? (by decide) now)

end Sql.Stamp

end Datasheet
