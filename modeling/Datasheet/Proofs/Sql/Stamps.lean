import Datasheet.Proofs.Calendar.Written
import Datasheet.Proofs.Sql.Days
import Datasheet.Proofs.Sql.Seconds

/-! # Moments of the engine

The engine reads a moment with a grammar of its own. Whatever it reads as a date with a time of day, and a cell holds as a
moment too, both read alike; only the fraction of the second is rounded by the engine.
-/

namespace Datasheet

open Text Calendar

namespace Decimal

theorem fixed?_eq_some {count low high n : Nat} {cs rest : List Char} (read : fixed? count low high cs = some (n, rest)) :
    ∃ digits, cs = digits ++ rest ∧ Writes digits count n ∧ low ≤ n ∧ n ≤ high := by
  rw [fixed?] at read
  split at read
  next known =>
      obtain ⟨length, all, least, most⟩ := known
      obtain ⟨rfl, rfl⟩ := Prod.mk.inj (Option.some.inj read)
      exact ⟨cs.take count, (List.take_append_drop count cs).symm, ⟨List.all_eq_true.1 all, length, rfl⟩, least, most⟩
  next => exact absurd read (by simp)

end Decimal

namespace Sql.Stamp

open Decimal

theorem readMark?_eq_some {mark : Char} {cs rest : List Char} (read : readMark? mark cs = some rest) :
    cs = mark :: rest := by
  cases cs with
  | nil => exact absurd read (by simp [readMark?])
  | cons c cs =>
      rw [readMark?] at read
      split at read
      next same => rw [same, Option.some.inj read]
      next => exact absurd read (by simp)

theorem readClock?_eq_some {greatest hour minute : Nat} {cs rest : List Char}
    (read : readClock? greatest cs = some ((hour, minute), rest)) :
    ∃ hours minutes, cs = hours ++ ':' :: (minutes ++ rest) ∧ Writes hours 2 hour ∧ Writes minutes 2 minute
      ∧ minute ≤ 59 := by
  rw [readClock?] at read
  obtain ⟨⟨_, _⟩, first, read⟩ := Option.bind_eq_some_iff.1 read
  obtain ⟨_, mark, read⟩ := Option.bind_eq_some_iff.1 read
  obtain ⟨⟨_, _⟩, second, read⟩ := Option.bind_eq_some_iff.1 read
  obtain ⟨⟨rfl, rfl⟩, rfl⟩ : (_ = hour ∧ _ = minute) ∧ _ = rest := by simpa using read
  obtain ⟨hours, rfl, writes, _, _⟩ := fixed?_eq_some first
  obtain rfl := readMark?_eq_some mark
  obtain ⟨minutes, rfl, writes', _, most⟩ := fixed?_eq_some second
  exact ⟨hours, minutes, rfl, writes, writes', most⟩

/-! ## Offsets -/

/-- An offset as it is written, without blanks. Nothing is written for an offset that is left out. -/
inductive WritesOffset : List Char → Int → Prop where
  | none : WritesOffset [] 0
  | zulu {c : Char} (letter : c = 'Z' ∨ c = 'z') : WritesOffset [c] 0
  | signed {hours minutes : List Char} {hour minute : Nat} (west : Bool) (writes : Writes hours 2 hour)
      (writes' : Writes minutes 2 minute) (most : minute ≤ 59) :
      WritesOffset ((if west then '-' else '+') :: (hours ++ ':' :: minutes))
        (if west then -(60 * (hour : Int) + minute) else 60 * (hour : Int) + minute)

theorem isBlank_of_isSpace {c : Char} (space : isSpace c = true) : isBlank c = true := by
  simp only [isSpace, Bool.or_eq_true, Bool.and_eq_true, beq_iff_eq, decide_eq_true_eq] at space
  rcases space with rfl | range
  · decide
  · simp [isBlank, range]

theorem readOffset?_eq_some {cs : List Char} {offset : Int} (read : readOffset? cs = some offset) :
    ∃ blanks text blanks', cs = blanks ++ (text ++ blanks') ∧ (∀ c ∈ blanks, isBlank c = true)
      ∧ (∀ c ∈ blanks', isBlank c = true) ∧ WritesOffset text offset ∧ (text = [] → blanks = []) := by
  have front : ∀ c ∈ cs.takeWhile isSpace, isBlank c = true :=
    fun c member => isBlank_of_isSpace (List.mem_takeWhile_imp member)
  have all {rest : List Char} (spaces : rest.all isSpace = true) : ∀ c ∈ rest, isBlank c = true :=
    fun c member => isBlank_of_isSpace (List.all_eq_true.1 spaces c member)
  have whole := List.takeWhile_append_dropWhile (p := isSpace) (l := cs)
  rw [readOffset?.eq_def] at read
  split at read
  next done =>
      obtain rfl := Option.some.inj read
      refine ⟨[], [], cs, rfl, by simp, ?_, .none, fun _ => rfl⟩
      rwa [← whole, done, List.append_nil]
  next c rest same =>
      rw [same] at whole
      split at read
      next letter =>
          split at read
          next spaces =>
              obtain rfl := Option.some.inj read
              exact ⟨cs.takeWhile isSpace, [c], rest, whole.symm, front, all spaces, .zulu letter, by simp⟩
          next => exact absurd read (by simp)
      next =>
          split at read
          next sign =>
              obtain ⟨⟨⟨hour, minute⟩, after⟩, clock, told⟩ := Option.bind_eq_some_iff.1 read
              obtain ⟨hours, minutes, rfl, writes, writes', most⟩ := readClock?_eq_some clock
              simp only at told
              split at told
              next spaces =>
                  obtain rfl := Option.some.inj told
                  rcases sign with rfl | rfl
                  · exact ⟨cs.takeWhile isSpace, _, after, by simpa using whole.symm, front, all spaces,
                      .signed false writes writes' most, by simp⟩
                  · exact ⟨cs.takeWhile isSpace, _, after, by simpa using whole.symm, front, all spaces,
                      .signed true writes writes' most, by simp⟩
              next => exact absurd told (by simp)
          next => exact absurd read (by simp)

/-! ## Times of day -/

/-- Seconds as they are written, with their nanoseconds. Nothing is written for seconds that are left out. -/
inductive WritesSeconds : List Char → Nat → Nat → Prop where
  | none : WritesSeconds [] 0 0
  | whole {seconds : List Char} {second : Nat} (writes : Writes seconds 2 second) (most : second ≤ 59) :
      WritesSeconds (':' :: seconds) second 0
  | fraction {seconds digits : List Char} {second : Nat} (writes : Writes seconds 2 second) (most : second ≤ 59)
      (all : ∀ c ∈ digits, c.isDigit = true) (nonempty : digits ≠ []) :
      WritesSeconds (':' :: (seconds ++ '.' :: digits)) second
        (digitsValue 0 (digits.take 9) * 10 ^ (9 - (digits.take 9).length))

theorem readSeconds?_eq_some {cs rest : List Char} {x : Extended} {ms : Int} (read : readSeconds? cs = some (x, rest))
    (told : milliseconds? x = some ms) :
    ∃ text second nanosecond, cs = text ++ rest ∧ WritesSeconds text second nanosecond
      ∧ 1000 * (second : Int) ≤ ms ∧ ms ≤ 1000 * second + (nanosecond / 1000000 : Nat) + 1 := by
  rw [readSeconds?.eq_def] at read
  split at read
  next start =>
      obtain ⟨⟨second, after⟩, fixed, more⟩ := Option.bind_eq_some_iff.1 read
      obtain ⟨seconds, rfl, writes, _, most⟩ := fixed?_eq_some fixed
      have whole (same : x = .ofInt second) (left : after = rest) : ∃ text second nanosecond,
          ':' :: (seconds ++ after) = text ++ rest ∧ WritesSeconds text second nanosecond
            ∧ 1000 * (second : Int) ≤ ms ∧ ms ≤ 1000 * second + (nanosecond / 1000000 : Nat) + 1 := by
        rw [same] at told
        exact ⟨':' :: seconds, second, 0, by rw [left]; rfl, .whole writes most, milliseconds?_whole (by omega) told⟩
      simp only at more
      split at more
      next c rest' =>
          split at more
          next digit =>
              rw [Decimal.digits, List.span_eq_takeWhile_dropWhile] at more
              obtain ⟨rfl, rfl⟩ := Prod.mk.inj (Option.some.inj more)
              have all : ∀ d ∈ (c :: rest').takeWhile Char.isDigit, d.isDigit = true := fun d => List.mem_takeWhile_imp
              have nonempty : (c :: rest').takeWhile Char.isDigit ≠ [] := by simp [digit]
              have bounds := milliseconds?_fraction all (by omega) told
              rw [← thousandths_eq all] at bounds
              refine ⟨_, second, _, ?_, .fraction writes most all nonempty, bounds⟩
              simp
          next =>
              obtain ⟨same, left⟩ := Prod.mk.inj (Option.some.inj more)
              exact whole same.symm left
      next =>
          obtain ⟨same, left⟩ := Prod.mk.inj (Option.some.inj more)
          exact whole same.symm left
  next =>
      obtain ⟨rfl, rfl⟩ := Prod.mk.inj (Option.some.inj read)
      exact ⟨[], 0, 0, rfl, .none, @milliseconds?_whole 0 ms (by decide) told⟩

theorem readTime?_eq_some {cs : List Char} {t : TimeOfDay} (read : readTime? cs = some t) :
    ∃ hours hour minutes minute seconds second nanosecond blanks offset blanks', ∃ ms : Int,
      cs = hours ++ ':' :: (minutes ++ (seconds ++ (blanks ++ (offset ++ blanks')))) ∧ Writes hours 2 hour
        ∧ Writes minutes 2 minute ∧ WritesSeconds seconds second nanosecond ∧ WritesOffset offset t.offset
        ∧ (∀ c ∈ blanks, isBlank c = true) ∧ (∀ c ∈ blanks', isBlank c = true) ∧ (offset = [] → blanks = [])
        ∧ t.milliseconds = 3600000 * hour + 60000 * minute + ms ∧ 1000 * (second : Int) ≤ ms
        ∧ ms ≤ 1000 * second + (nanosecond / 1000000 : Nat) + 1 := by
  rw [readTime?] at read
  obtain ⟨⟨⟨hour, minute⟩, _⟩, clock, read⟩ := Option.bind_eq_some_iff.1 read
  obtain ⟨⟨x, _⟩, seconds, read⟩ := Option.bind_eq_some_iff.1 read
  obtain ⟨offset, zone, read⟩ := Option.bind_eq_some_iff.1 read
  obtain ⟨ms, told, read⟩ := Option.bind_eq_some_iff.1 read
  obtain rfl := Option.some.inj read
  obtain ⟨hours, minutes, rfl, writes, writes', _⟩ := readClock?_eq_some clock
  obtain ⟨text, second, nanosecond, rfl, writesSeconds, low, high⟩ := readSeconds?_eq_some seconds told
  obtain ⟨blanks, zoneText, blanks', rfl, all, all', writesOffset, left⟩ := readOffset?_eq_some zone
  exact ⟨hours, hour, minutes, minute, text, second, nanosecond, blanks, zoneText, blanks', ms, rfl, writes, writes',
    writesSeconds, writesOffset, all, all', left, rfl, low, high⟩

/-! ## Dates -/

/-- A date as it is written, perhaps with a minus sign. -/
inductive WritesDate : List Char → Day → Prop where
  | mk {years months days : List Char} {year month day : Nat} (negative : Bool) (writesYear : Writes years 4 year)
      (writesMonth : Writes months 2 month) (writesDay : Writes days 2 day) :
      WritesDate ((if negative then ['-'] else []) ++ (years ++ '-' :: (months ++ '-' :: days)))
        ⟨if negative then -(year : Int) else year, month, day⟩

theorem readDate?_eq_some {cs : List Char} {stamp : Stamp} (read : readDate? cs = some stamp) :
    ∃ date day gap clock, cs = date ++ (gap ++ clock) ∧ WritesDate date day ∧ (∀ c ∈ gap, isSpace c = true ∨ c = 'T')
      ∧ (clock = [] ∧ stamp = .date day ∨ ∃ t, readTime? clock = some t ∧ stamp = .moment day t) := by
  rw [readDate?.eq_def] at read
  split at read
  next negative unsigned start =>
      have whole : cs = (if negative then ['-'] else []) ++ unsigned := by
        split at start
        next =>
            obtain ⟨rfl, rfl⟩ := Prod.mk.inj start
            rfl
        next =>
            obtain ⟨rfl, rfl⟩ := Prod.mk.inj start
            rfl
      obtain ⟨⟨year, _⟩, first, read⟩ := Option.bind_eq_some_iff.1 read
      obtain ⟨_, mark, read⟩ := Option.bind_eq_some_iff.1 read
      obtain ⟨⟨month, _⟩, second, read⟩ := Option.bind_eq_some_iff.1 read
      obtain ⟨_, mark', read⟩ := Option.bind_eq_some_iff.1 read
      obtain ⟨⟨day, rest⟩, third, told⟩ := Option.bind_eq_some_iff.1 read
      clear read
      obtain ⟨years, same, writesYear, _, _⟩ := fixed?_eq_some first
      obtain ⟨months, same', writesMonth, _, _⟩ := fixed?_eq_some second
      obtain ⟨days, same'', writesDay, _, _⟩ := fixed?_eq_some third
      have gap : ∀ c ∈ rest.takeWhile (fun c => isSpace c || c == 'T'), isSpace c = true ∨ c = 'T' :=
        fun c member => by simpa using List.mem_takeWhile_imp member
      refine ⟨_, _, rest.takeWhile (fun c => isSpace c || c == 'T'), rest.dropWhile (fun c => isSpace c || c == 'T'), ?_,
        .mk negative writesYear writesMonth writesDay, gap, ?_⟩
      · simp [whole, same, readMark?_eq_some mark, same', readMark?_eq_some mark', same'']
      · simp only at told
        split at told
        next done => exact .inl ⟨done, (Option.some.inj told).symm⟩
        next =>
            obtain ⟨t, time, rfl⟩ := Option.map_eq_some_iff.1 told
            exact .inr ⟨t, time, rfl⟩

end Sql.Stamp

end Datasheet
