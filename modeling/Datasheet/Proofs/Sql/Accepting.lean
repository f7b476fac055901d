import Datasheet.Proofs.Sql.Spelling

/-! # Moments that the engine reads

A moment that is written out is read by the engine, if its year has four digits, it is not in a leap second and its
offset is below fifteen hours. Its fraction of a second has nine digits at most, so no step of the engine's arithmetic
leaves the finite numbers.
-/

namespace Datasheet

open Text Calendar

namespace Extended

open Binary64

theorem ofSteps_le {n d c : Nat} (small : c < 2 ^ 53) (positive : 0 < d) (le : n ≤ c * one * d) :
    ∃ s, ofSteps false n d = counted s ∧ s ≤ c * one := by
  have kept : IsKept (c * one) := isKept_mul_pow small _
  have bound := kept.roundedTo_le positive le
  exact ⟨_, ofSteps_of_some (nearest?_eq_some (Nat.lt_of_le_of_lt bound (mul_one_lt_overflow small))), bound⟩

end Extended

namespace Decimal

theorem Writes.fixed? {digits : List Char} {count n low high : Nat} (writes : Writes digits count n) (least : low ≤ n)
    (most : n ≤ high) (rest : List Char) : fixed? count low high (digits ++ rest) = some (n, rest) := by
  have front : (digits ++ rest).take count = digits := by rw [← writes.length, List.take_left]
  have back : (digits ++ rest).drop count = rest := by rw [← writes.length, List.drop_left]
  rw [Decimal.fixed?, front, back, writes.value]
  exact if_pos ⟨writes.length, List.all_eq_true.2 writes.all, least, most⟩

end Decimal

namespace Sql.Stamp

open Decimal Extended Binary64

/-! ## Milliseconds -/

theorem exists_milliseconds {s c : Nat} (small : 1000 * c + 1 < 2 ^ 53) (le : s ≤ c * one) :
    ∃ ms, milliseconds? (counted s) = some ms := by
  obtain ⟨half, made, low⟩ := @ofSteps_le (1 * one) 2 1 (by decide) (by decide) (by omega)
  obtain ⟨t, scaled, bound⟩ := @ofSteps_le (s * 1000) 1 (1000 * c) (by omega) (by decide)
    (by rw [Nat.mul_one, Nat.mul_assoc, Nat.mul_comm s]; exact Nat.mul_le_mul_left _ le)
  obtain ⟨u, rounded, _⟩ := @ofSteps_le (t + half) 1 (1000 * c + 1) small (by decide)
    (by rw [Nat.mul_one, Nat.add_mul]; exact Nat.add_le_add bound low)
  have product : (counted s).mul (.ofInt 1000) = counted t := (mul_whole (n := 1000) s (by decide)).trans scaled
  rw [milliseconds?, product, ofQuotient, made, add_counted, rounded]
  exact ⟨_, rfl⟩

theorem exists_milliseconds_whole {second : Nat} (small : second < 60) :
    ∃ ms, milliseconds? (.ofInt second) = some ms := by
  rw [ofInt_small (by omega)]
  exact exists_milliseconds (c := second) (by omega) (Nat.le_refl _)

theorem exists_milliseconds_fraction {second : Nat} (small : second < 60) {digits : List Char}
    (all : ∀ c ∈ digits, c.isDigit = true) (few : digits.length ≤ 14) :
    ∃ ms, milliseconds? (secondsWith second digits) = some ms := by
  have value := digitsValue_lt all 0
  rw [Nat.zero_add, Nat.one_mul] at value
  have positive : 10 ^ digits.length * one ≠ 0 := (Nat.mul_pos (Nat.pow_pos (by decide : 0 < 10)) Binary64.one_pos).ne'
  obtain ⟨part, divided, low⟩ := @ofSteps_le (digitsValue 0 digits * one * one) (10 ^ digits.length * one) 1 (by decide)
    (Nat.pos_of_ne_zero positive) (by
      rw [Nat.one_mul, Nat.mul_comm one]
      exact Nat.mul_le_mul_right _ (Nat.mul_le_mul_right _ value.le))
  obtain ⟨s, sum, bound⟩ := @ofSteps_le (second * one + part) 1 (second + 1) (by omega) (by decide)
    (by rw [Nat.mul_one, Nat.add_mul]; exact Nat.add_le_add_left low _)
  have whole : secondsWith second digits = counted s := by
    rw [secondsWith, fractionSteps_few all few]
    simp only
    rw [div_counted _ positive, divided, ofInt_small (by omega), add_counted, sum]
  rw [whole]
  exact exists_milliseconds (c := second + 1) (by omega) bound

/-! ## Parts of a text -/

variable {hours minutes : List Char} {hour minute : Nat}

theorem readClock?_writes {greatest : Nat} (writes : Writes hours 2 hour) (writes' : Writes minutes 2 minute)
    (most : hour ≤ greatest) (most' : minute ≤ 59) (rest : List Char) :
    readClock? greatest (hours ++ ':' :: (minutes ++ rest)) = some ((hour, minute), rest) := by
  have colon : readMark? ':' (':' :: (minutes ++ rest)) = some (minutes ++ rest) := by simp [readMark?]
  rw [readClock?, writes.fixed? (Nat.zero_le _) most]
  simp only [Option.bind_eq_bind, Option.bind_some, colon, writes'.fixed? (Nat.zero_le _) most']

theorem readOffset?_signed (west : Bool) {hours minutes : List Char} {hour minute : Nat} (writes : Writes hours 2 hour)
    (writes' : Writes minutes 2 minute) (most : hour ≤ 14) (most' : minute ≤ 59) :
    readOffset? ((if west then '-' else '+') :: (hours ++ ':' :: minutes))
      = some (if west then -(60 * (hour : Int) + minute) else 60 * (hour : Int) + minute) := by
  have clock := readClock?_writes writes writes' most most' []
  rw [List.append_nil] at clock
  have solid : ((if west then '-' else '+') :: (hours ++ ':' :: minutes)).dropWhile isSpace
      = (if west then '-' else '+') :: (hours ++ ':' :: minutes) := by cases west <;> rfl
  rw [readOffset?.eq_def, solid]
  cases west with
  | true =>
      change (if '-' = 'Z' ∨ '-' = 'z' then _ else if '-' = '+' ∨ '-' = '-' then _ else _) = _
      rw [if_neg (by decide), if_pos (.inr rfl), clock]
      rfl
  | false =>
      change (if '+' = 'Z' ∨ '+' = 'z' then _ else if '+' = '+' ∨ '+' = '-' then _ else _) = _
      rw [if_neg (by decide), if_pos (.inl rfl), clock]
      rfl

/-- An offset is read as it is written, below fifteen hours. -/
theorem readOffset?_offsetText {offset : Int} (west : -900 < offset) (east : offset < 900) :
    readOffset? (offsetText offset) = some offset := by
  have writes := @writes_padded 2 (offset.natAbs / 60) (by decide) (by omega)
  have writes' := @writes_padded 2 (offset.natAbs % 60) (by decide) (by omega)
  have read := readOffset?_signed (decide (offset < 0)) writes writes' (by omega) (by omega)
  have same : offsetText offset = (if decide (offset < 0) = true then '-' else '+') :: (padded 2 (offset.natAbs / 60)
      ++ ':' :: padded 2 (offset.natAbs % 60)) := by simp only [offsetText, decide_eq_true_iff]
  rw [same, read]
  congr 1
  by_cases negative : offset < 0
  · rw [if_pos (decide_eq_true negative)]
    omega
  · rw [if_neg (by simpa using negative)]
    omega

theorem fractionText_cases (nanosecond : Nat) (small : nanosecond < 1000000000) : fractionText nanosecond = []
    ∨ ∃ digits, fractionText nanosecond = '.' :: digits ∧ digits ≠ [] ∧ (∀ c ∈ digits, c.isDigit = true)
      ∧ digits.length ≤ 14 := by
  have places {width n : Nat} (positive : 0 < width) (few : width ≤ 14) (small : n < 10 ^ width) :
      padded width n ≠ [] ∧ (∀ c ∈ padded width n, c.isDigit = true) ∧ (padded width n).length ≤ 14 := by
    have writes := writes_padded positive small
    have length := writes.length
    exact ⟨List.ne_nil_of_length_pos (by omega), writes.all, by omega⟩
  rw [fractionText]
  split
  next => exact .inl rfl
  next =>
      split
      next => exact .inr ⟨_, rfl, places (by decide) (by decide) (by omega)⟩
      next =>
          split
          next => exact .inr ⟨_, rfl, places (by decide) (by decide) (by omega)⟩
          next => exact .inr ⟨_, rfl, places (by decide) (by decide) (by omega)⟩

theorem offsetText_eq (offset : Int) :
    ∃ sign rest, offsetText offset = sign :: rest ∧ sign ≠ '.' ∧ sign.isDigit = false := by
  rw [offsetText]
  by_cases negative : offset < 0
  · exact ⟨'-', _, by rw [if_pos negative], by decide⟩
  · exact ⟨'+', _, by rw [if_neg negative], by decide⟩

theorem readSeconds?_text {second nanosecond : Nat} (small : second < 60) (small' : nanosecond < 1000000000)
    (offset : Int) :
    ∃ x ms, readSeconds? (':' :: (padded 2 second ++ (fractionText nanosecond ++ offsetText offset)))
      = some (x, offsetText offset) ∧ milliseconds? x = some ms := by
  have writes := @writes_padded 2 second (by decide) (by omega)
  obtain ⟨sign, rest, zone, other, noDigit⟩ := offsetText_eq offset
  rw [readSeconds?.eq_def]
  simp only [writes.fixed? (Nat.zero_le _) (by omega : second ≤ 59), Option.bind_eq_bind, Option.bind_some]
  rcases fractionText_cases nanosecond small' with empty | ⟨digits, fraction, nonempty, all, few⟩
  · obtain ⟨ms, told⟩ := exists_milliseconds_whole small
    refine ⟨.ofInt second, ms, ?_, told⟩
    rw [empty, List.nil_append, zone]
    split
    next same => exact absurd (List.cons.inj same).1 other
    next => rfl
  · obtain ⟨ms, told⟩ := exists_milliseconds_fraction small all few
    refine ⟨secondsWith second digits, ms, ?_, told⟩
    have parts := takeWhile_digits all (zone ▸ noDigit_cons rest noDigit : NoDigit (offsetText offset))
    obtain ⟨c, digits, rfl⟩ := List.exists_cons_of_ne_nil nonempty
    have digit : c.isDigit = true := all c List.mem_cons_self
    rw [fraction, List.cons_append, List.cons_append]
    simp only [digit, if_true, Decimal.digits, List.span_eq_takeWhile_dropWhile]
    rw [← List.cons_append, parts.1, parts.2]

theorem readTime?_text {hour minute second nanosecond : Nat} {offset : Int} (hours : hour < 24) (minutes : minute < 60)
    (seconds : second < 60) (fraction : nanosecond < 1000000000) (west : -900 < offset) (east : offset < 900) :
    ∃ t, readTime? (padded 2 hour ++ ':' :: (padded 2 minute ++ ':' :: (padded 2 second
      ++ (fractionText nanosecond ++ offsetText offset)))) = some t := by
  have writes := @writes_padded 2 hour (by decide) (by omega)
  have writes' := @writes_padded 2 minute (by decide) (by omega)
  obtain ⟨x, ms, read, told⟩ := readSeconds?_text seconds fraction offset
  rw [readTime?, readClock?_writes writes writes' (by omega) (by omega)]
  simp only [Option.bind_eq_bind, Option.bind_some, read, readOffset?_offsetText west east, told]
  exact ⟨_, rfl⟩

/-! ## Whole moments -/

theorem readDate?_text {d : Date} (valid : d.isValid = true) (least : 0 ≤ d.year) (most : d.year ≤ 9999) {c : Char}
    {clock : List Char} (digit : c.isDigit = true) {t : TimeOfDay} (time : readTime? (c :: clock) = some t) :
    readDate? (d.text ++ 'T' :: c :: clock) = some (.moment (Day.ofDate d) t) := by
  obtain ⟨year, month, day⟩ := d
  obtain ⟨year, rfl⟩ := Int.eq_ofNat_of_zero_le least
  have months : 1 ≤ month ∧ month ≤ 12 := Date.month_of_isValid valid
  have days : 1 ≤ day ∧ day ≤ 31 := Date.day_of_isValid valid
  have fourDigits : year ≤ 9999 := by simpa using most
  have writesYear := @writes_padded 4 year (by decide) (by omega)
  have writesMonth := @writes_padded 2 month (by decide) (by omega)
  have writesDay := @writes_padded 2 day (by decide) (by omega)
  have whole : (Date.mk year month day).text ++ 'T' :: c :: clock
      = padded 4 year ++ '-' :: (padded 2 month ++ '-' :: (padded 2 day ++ 'T' :: c :: clock)) := by
    simp [Date.text, yearText, fourDigits]
  have mark (rest : List Char) : readMark? '-' ('-' :: rest) = some rest := by simp [readMark?]
  have gap : ('T' :: c :: clock).dropWhile (fun c => isSpace c || c == 'T') = c :: clock := by
    have space : isSpace c = false := by
      by_contra space
      exact absurd (isBlank_digit digit) (by simp [isBlank_of_isSpace (by simpa using space)])
    have other : c ≠ 'T' := by
      rintro rfl
      exact absurd digit (by decide)
    simp [space, other]
  -- The first digit of the year is no sign, so the year is taken for what it is.
  rw [readDate?.eq_def, whole]
  split
  next negative unsigned start =>
      have same : negative = false
          ∧ unsigned = padded 4 year ++ '-' :: (padded 2 month ++ '-' :: (padded 2 day ++ 'T' :: c :: clock)) := by
        obtain ⟨y, years, front, first⟩ := writesYear.exists_cons
        rw [front] at start ⊢
        split at start
        next same => exact absurd first (by rw [(List.cons.inj same).1]; decide)
        next =>
            obtain ⟨rfl, rfl⟩ := Prod.mk.inj start
            exact ⟨rfl, rfl⟩
      obtain ⟨rfl, rfl⟩ := same
      simp only [writesYear.fixed? (Nat.zero_le _) fourDigits, mark, writesMonth.fixed? months.1 months.2,
        writesDay.fixed? days.1 days.2, Option.bind_eq_bind, Option.bind_some, gap, time, Option.map_some]
      rfl

theorem ne_zero_of_mem_text {m : Moment} {c : Char} (member : c ∈ m.text) : c.toNat ≠ 0 := by
  have digits (width n : Nat) : ∀ c ∈ padded width n, c.toNat ≠ 0 := by
    refine List.forall_mem_append.2 ⟨fun c member => ?_, fun c member => ?_⟩
    · rw [List.eq_of_mem_replicate member]
      decide
    · exact ne_zero_of_isDigit (Nat.isDigit_of_mem_toDigits (by decide) (by decide) member)
  have mark {c : Char} {cs : List Char} (first : c.toNat ≠ 0) (rest : ∀ d ∈ cs, d.toNat ≠ 0) :
      ∀ d ∈ c :: cs, d.toNat ≠ 0 := List.forall_mem_cons.2 ⟨first, rest⟩
  have both {cs ds : List Char} (front : ∀ c ∈ cs, c.toNat ≠ 0) (back : ∀ c ∈ ds, c.toNat ≠ 0) :
      ∀ c ∈ cs ++ ds, c.toNat ≠ 0 := List.forall_mem_append.2 ⟨front, back⟩
  have year (y : Int) : ∀ c ∈ yearText y, c.toNat ≠ 0 := by
    rw [yearText]
    split
    next => exact digits _ _
    next => exact mark (by split <;> decide) (digits _ _)
  have fraction (n : Nat) : ∀ c ∈ fractionText n, c.toNat ≠ 0 := by
    rw [fractionText]
    repeat' split
    · exact List.forall_mem_nil _
    all_goals exact mark (by decide) (digits _ _)
  have offset (o : Int) : ∀ c ∈ offsetText o, c.toNat ≠ 0 :=
    mark (by split <;> decide) (both (digits _ _) (mark (by decide) (digits _ _)))
  have date : ∀ c ∈ m.date.text, c.toNat ≠ 0 :=
    both (year _) (mark (by decide) (both (digits _ _) (mark (by decide) (digits _ _))))
  have clock := both (both (digits 2 (if 1000000000 ≤ m.nanosecond then m.second + 1 else m.second))
    (fraction (if 1000000000 ≤ m.nanosecond then m.nanosecond - 1000000000 else m.nanosecond))) (offset m.offset)
  have colon {cs : List Char} (rest : ∀ c ∈ cs, c.toNat ≠ 0) : ∀ c ∈ ':' :: cs, c.toNat ≠ 0 := mark (by decide) rest
  have time := both (digits 2 m.hour) (colon (both (digits 2 m.minute) (colon clock)))
  exact both date (mark (by decide) time) c member

/-- A moment that is written out is read, unless its year has other than four digits, it is in a leap second or its offset
    has fifteen hours or more. -/
theorem reads_iso {m : Moment} (proper : m.IsProper) (least : 0 ≤ m.date.year) (most : m.date.year ≤ 9999)
    (nanosecond : m.nanosecond < 1000000000) (west : -900 < m.offset) (east : m.offset < 900) : Reads m.iso := by
  have clean : m.iso.toList.takeWhile (·.toNat != 0) = m.text := by
    rw [Moment.iso, String.toList_ofList]
    exact List.takeWhile_eq_self_iff.2 fun c member => by simpa using ne_zero_of_mem_text member
  have ordinary : ¬1000000000 ≤ m.nanosecond := by omega
  have small : m.hour < 24 := proper.hour
  obtain ⟨t, time⟩ := readTime?_text small proper.minute proper.second nanosecond west east
  obtain ⟨c, hours, first, digit⟩ := (@writes_padded 2 m.hour (by decide) (by omega)).exists_cons
  rw [first, List.cons_append] at time
  have whole : m.text = m.date.text ++ 'T' :: c :: (hours ++ ':' :: (padded 2 m.minute ++ ':' :: (padded 2 m.second
      ++ (fractionText m.nanosecond ++ offsetText m.offset)))) := by
    simp [Moment.text, ordinary, first]
  rw [Reads, clean, whole, ofText?, readDate?_text proper.valid least most digit time]
  rfl

end Sql.Stamp

end Datasheet
