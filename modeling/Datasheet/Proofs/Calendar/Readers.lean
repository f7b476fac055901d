import Datasheet.Calendar.Notation
import Datasheet.Proofs.Number.Whole

/-! # Readers of moments

A moment is read part by part. Here stand the values of the readers in front of a text whose parts are known, the parts
of any text that is read, and what can be said of such a text: no NUL stands in it, and in ISO-8601 a colon does.
-/

namespace Datasheet.Calendar

open Text

/-! ## Known parts -/

/-- A text does not start with a digit. -/
def NoDigit (cs : List Char) : Prop := ∀ c ∈ cs.head?, c.isDigit = false

theorem noDigit_cons {c : Char} (cs : List Char) (other : c.isDigit = false) : NoDigit (c :: cs) := by
  simpa [NoDigit] using other

theorem takeWhile_digits {digits rest : List Char} (all : ∀ c ∈ digits, c.isDigit = true) (stop : NoDigit rest) :
    (digits ++ rest).takeWhile Char.isDigit = digits ∧ (digits ++ rest).dropWhile Char.isDigit = rest := by
  have noDigit : rest.takeWhile Char.isDigit = [] ∧ rest.dropWhile Char.isDigit = rest := by
    cases rest with
    | nil => exact ⟨rfl, rfl⟩
    | cons c rest =>
        have other : c.isDigit = false := stop c rfl
        simp [other]
  rw [List.takeWhile_append_of_pos all, List.dropWhile_append_of_pos all, noDigit.1, noDigit.2, List.append_nil]
  exact ⟨rfl, rfl⟩

/-- Digits in front of something else are read as a whole. -/
theorem readDigits_stop {least most : Nat} {digits rest : List Char} (all : ∀ c ∈ digits, c.isDigit = true)
    (enough : least ≤ digits.length) (few : digits.length ≤ most) (stop : NoDigit rest) :
    readDigits least most (digits ++ rest) = some (Decimal.digitsValue 0 digits, rest) := by
  have stop' : NoDigit (rest.take (most - digits.length)) := by
    intro c member
    refine stop c ?_
    cases rest with
    | nil => simp at member
    | cons d rest =>
        cases h : most - digits.length with
        | zero => simp [h] at member
        | succ k => simpa [h] using member
  have whole : ((digits ++ rest).take most).takeWhile Char.isDigit = digits := by
    rw [List.take_append, List.take_of_length_le few]
    exact (takeWhile_digits all stop').1
  rw [readDigits]
  simp only [whole, if_neg (Nat.not_lt.2 enough), List.drop_left]

theorem readDigits_full {least most : Nat} {digits : List Char} (rest : List Char) (all : ∀ c ∈ digits, c.isDigit = true)
    (enough : least ≤ digits.length) (full : digits.length = most) :
    readDigits least most (digits ++ rest) = some (Decimal.digitsValue 0 digits, rest) := by
  have whole : ((digits ++ rest).take most).takeWhile Char.isDigit = digits := by
    rw [← full, List.take_left]
    exact List.takeWhile_eq_self_iff.2 all
  rw [readDigits]
  simp only [whole, if_neg (Nat.not_lt.2 enough), List.drop_left]

theorem readDigits_none {least most : Nat} {cs : List Char} (positive : 0 < least) (stop : NoDigit cs) :
    readDigits least most cs = none := by
  have noDigit : (cs.take most).takeWhile Char.isDigit = [] := by
    cases cs with
    | nil => simp
    | cons c cs =>
        have other : c.isDigit = false := stop c rfl
        cases most with
        | zero => rfl
        | succ k => simp [other]
  rw [readDigits]
  simp only [noDigit, List.length_nil, if_pos positive]

theorem readMark_self (mark : Char) (rest : List Char) : readMark mark (mark :: rest) = some rest := if_pos rfl

theorem readMark_eq_some {mark : Char} {cs rest : List Char} (read : readMark mark cs = some rest) : cs = mark :: rest := by
  cases cs with
  | nil => exact absurd read (by simp [readMark])
  | cons c cs =>
      rw [readMark] at read
      split at read
      next same => rw [same, Option.some.inj read]
      next => exact absurd read (by simp)

theorem readMark_eq_some_iff {mark : Char} {cs rest : List Char} : readMark mark cs = some rest ↔ cs = mark :: rest :=
  ⟨readMark_eq_some, fun same => same ▸ readMark_self mark rest⟩

theorem isBlank_digit {c : Char} (digit : c.isDigit = true) : isBlank c = false := by
  have range : 48 ≤ c.toNat ∧ c.toNat ≤ 57 := by simpa [Char.isDigit, UInt32.le_iff_toNat_le] using digit
  simp only [isBlank, Bool.or_eq_false_iff, Bool.and_eq_false_iff, decide_eq_false_iff_not, beq_eq_false_iff_ne]
  omega

/-! ## Parts of a notation -/

/-- The parts of a full ISO-8601 notation, with the mark that stands behind each of them. -/
inductive FullNotation (cs : List Char) (m : Moment) : Prop
  | mk {year month day hour minute second nanosecond : Nat} {offset : Int} {separator : Char}
      {afterYear afterMonth afterDay afterHour afterMinute fraction zone : List Char}
      (years : readDigits 4 4 cs = some (year, '-' :: afterYear))
      (months : readDigits 2 2 afterYear = some (month, '-' :: afterMonth))
      (days : readDigits 2 2 afterMonth = some (day, separator :: afterDay))
      (separates : separator = 'T' ∨ separator = 't' ∨ separator = ' ')
      (hours : readDigits 2 2 afterDay = some (hour, ':' :: afterHour))
      (minutes : readDigits 2 2 afterHour = some (minute, ':' :: afterMinute))
      (seconds : readDigits 2 2 afterMinute = some (second, fraction))
      (nanoseconds : readFraction fraction = some (nanosecond, zone))
      (offsets : readStrictOffset zone = some (offset, []))
      (made : Moment.make? ⟨year, month, day⟩ hour minute second nanosecond offset = some m)

/-- The parts of an ISO-8601 notation up to the minutes, and the rest of the text. -/
inductive MinutesNotation (cs : List Char) : Date → Nat → Nat → List Char → Prop
  | mk {year : Int} {month day hour minute : Nat} {afterYear afterMonth afterDay afterHour rest : List Char}
      (years : readYear cs = some (year, '-' :: afterYear))
      (months : readPadded afterYear = some (month, '-' :: afterMonth))
      (days : readPadded afterMonth = some (day, 'T' :: afterDay))
      (hours : readPadded afterDay = some (hour, ':' :: afterHour))
      (minutes : readPadded afterHour = some (minute, rest)) : MinutesNotation cs ⟨year, month, day⟩ hour minute rest

/-- The three notations of ISO-8601 with an offset. -/
inductive IsoNotation (cs : List Char) (m : Moment) : Prop
  | full (parts : FullNotation cs m)
  | offset {date : Date} {hour minute : Nat} {offset : Int} {rest : List Char}
      (start : MinutesNotation cs date hour minute rest) (zone : readLooseOffset rest = some (offset, []))
      (made : Moment.make? date hour minute 0 0 offset = some m)
  | zulu {date : Date} {hour minute : Nat} (start : MinutesNotation cs date hour minute ['Z'])
      (made : Moment.make? date hour minute 0 0 0 = some m)

/-- The parts of the legacy notation. The hour stands on a clock of twelve hours. -/
inductive LegacyNotation (cs : List Char) (m : Moment) : Prop
  | mk {year : Int} {month day hour minute second : Nat} {afternoon : Bool}
      {afterDay afterMonth afterYear afterHour afterMinute half : List Char}
      (days : readPadded cs = some (day, '/' :: afterDay))
      (months : readPadded afterDay = some (month, '/' :: afterMonth))
      (years : readYear afterMonth = some (year, afterYear))
      (hours : readPadded afterYear = some (hour, ':' :: afterHour))
      (minutes : readPadded afterHour = some (minute, ':' :: afterMinute))
      (seconds : readPadded afterMinute = some (second, half))
      (halves : readHalf (trimStart half) = some (afternoon, [])) (least : 1 ≤ hour) (twelve : hour ≤ 12)
      (made : Moment.make? ⟨year, month, day⟩ (hour % 12 + if afternoon then 12 else 0) minute second 0 0 = some m)

theorem fullNotation_of_readFull {cs : List Char} {m : Moment} (read : readFull cs = some m) : FullNotation cs m := by
  rw [readFull] at read
  obtain ⟨⟨_, _⟩, years, read⟩ := Option.bind_eq_some_iff.1 read
  obtain ⟨_, mark, read⟩ := Option.bind_eq_some_iff.1 read
  obtain ⟨⟨_, _⟩, months, read⟩ := Option.bind_eq_some_iff.1 read
  obtain ⟨_, mark', read⟩ := Option.bind_eq_some_iff.1 read
  obtain ⟨⟨_, _⟩, days, read⟩ := Option.bind_eq_some_iff.1 read
  simp only at read
  split at read
  next =>
      split at read
      next separates =>
          simp only [Option.bind_eq_bind, Option.bind_some, Option.bind_eq_some_iff, readMark_eq_some_iff,
            Option.ite_none_right_eq_some, List.isEmpty_iff] at read
          obtain ⟨⟨_, _⟩, hours, _, rfl, ⟨_, _⟩, minutes, _, rfl, ⟨_, _⟩, seconds, ⟨_, _⟩, nanoseconds, ⟨_, _⟩, offsets,
            rfl, made⟩ := read
          rw [readMark_eq_some mark] at years
          rw [readMark_eq_some mark'] at months
          exact ⟨years, months, days, separates, hours, minutes, seconds, nanoseconds, offsets, made⟩
      next => exact absurd read (by simp)
  next => exact absurd read (by simp)

theorem minutesNotation_of_readMinutes {cs rest : List Char} {date : Date} {hour minute : Nat}
    (read : readMinutes cs = some (date, hour, minute, rest)) : MinutesNotation cs date hour minute rest := by
  simp only [readMinutes, Option.bind_eq_bind, Option.bind_eq_some_iff, readMark_eq_some_iff, Option.some_inj,
    Prod.mk.injEq] at read
  obtain ⟨⟨_, _⟩, years, _, rfl, ⟨_, _⟩, months, _, rfl, ⟨_, _⟩, days, _, rfl, ⟨_, _⟩, hours, _, rfl, ⟨_, _⟩, minutes,
    rfl, rfl, rfl, rfl⟩ := read
  exact ⟨years, months, days, hours, minutes⟩

theorem isoNotation_of_read {s : String} {m : Moment} (read : DateNotation.isoOffset.read? s = some m) :
    IsoNotation (trim s.toList) m := by
  rcases Option.or_eq_some_iff.1 read with full | ⟨_, read⟩
  · exact .full (fullNotation_of_readFull full)
  rcases Option.or_eq_some_iff.1 read with loose | ⟨_, zulu⟩
  · simp only [readMinutesWithOffset, Option.bind_eq_bind, Option.bind_eq_some_iff, Prod.exists,
      Option.ite_none_right_eq_some, List.isEmpty_iff] at loose
    obtain ⟨_, _, _, _, start, _, _, zone, rfl, made⟩ := loose
    exact .offset (minutesNotation_of_readMinutes start) zone made
  · simp only [readMinutesWithZ, Option.bind_eq_bind, Option.bind_eq_some_iff, Prod.exists,
      Option.ite_none_right_eq_some] at zulu
    obtain ⟨_, _, _, _, start, rfl, made⟩ := zulu
    exact .zulu (minutesNotation_of_readMinutes start) made

theorem legacyNotation_of_readLegacy {cs : List Char} {m : Moment} (read : readLegacy cs = some m) :
    LegacyNotation cs m := by
  rw [readLegacy] at read
  obtain ⟨⟨_, _⟩, days, read⟩ := Option.bind_eq_some_iff.1 read
  obtain ⟨_, mark, read⟩ := Option.bind_eq_some_iff.1 read
  obtain ⟨⟨_, _⟩, months, read⟩ := Option.bind_eq_some_iff.1 read
  obtain ⟨_, mark', read⟩ := Option.bind_eq_some_iff.1 read
  obtain ⟨⟨_, _⟩, years, read⟩ := Option.bind_eq_some_iff.1 read
  simp only [Option.bind_eq_bind, Option.bind_eq_some_iff, readMark_eq_some_iff, Option.ite_none_right_eq_some,
    Bool.and_eq_true, List.isEmpty_iff, decide_eq_true_eq] at read
  obtain ⟨⟨_, _⟩, hours, _, rfl, ⟨_, _⟩, minutes, _, rfl, ⟨_, _⟩, seconds, ⟨_, _⟩, halves, ⟨⟨rfl, least⟩, twelve⟩, made⟩ := read
  rw [readMark_eq_some mark] at days
  rw [readMark_eq_some mark'] at months
  exact ⟨days, months, years, hours, minutes, seconds, halves, least, twelve, made⟩

/-! ## Whatever is read -/

/-- A reader takes the start of a text and leaves the rest. No NUL is taken. -/
def Takes (cs rest : List Char) : Prop := ∃ front, cs = front ++ rest ∧ ∀ c ∈ front, c.toNat ≠ 0

theorem Takes.refl (cs : List Char) : Takes cs cs := ⟨[], rfl, by simp⟩

theorem Takes.trans {cs cs' cs'' : List Char} (first : Takes cs cs') (second : Takes cs' cs'') : Takes cs cs'' := by
  obtain ⟨front, rfl, clean⟩ := first
  obtain ⟨front', rfl, clean'⟩ := second
  exact ⟨front ++ front', (List.append_assoc _ _ _).symm, List.forall_mem_append.2 ⟨clean, clean'⟩⟩

theorem takes_cons {c : Char} (cs : List Char) (clean : c.toNat ≠ 0) : Takes (c :: cs) cs := ⟨[c], rfl, by simpa using clean⟩

theorem takes_dropWhile {p : Char → Bool} (cs : List Char) (clean : ∀ c, p c = true → c.toNat ≠ 0) :
    Takes cs (cs.dropWhile p) :=
  ⟨cs.takeWhile p, (List.takeWhile_append_dropWhile).symm, fun c member => clean c (List.mem_takeWhile_imp member)⟩

theorem ne_zero_of_isBlank {c : Char} (blank : isBlank c = true) : c.toNat ≠ 0 := by
  intro zero
  simp [isBlank, zero] at blank

theorem ne_zero_of_isDigit {c : Char} (digit : c.isDigit = true) : c.toNat ≠ 0 := by
  rw [Decimal.toNat_digit digit]
  omega

theorem takes_trimStart (cs : List Char) : Takes cs (trimStart cs) := takes_dropWhile cs fun _ => ne_zero_of_isBlank

theorem readDigits_eq_some {least most n : Nat} {cs rest : List Char} (read : readDigits least most cs = some (n, rest)) :
    ∃ digits, cs = digits ++ rest ∧ ∀ c ∈ digits, c.isDigit = true := by
  rw [readDigits] at read
  split at read
  next => exact absurd read (by simp)
  next =>
      obtain ⟨_, rfl⟩ := Prod.mk.inj (Option.some.inj read)
      have front : ((cs.take most).takeWhile Char.isDigit) <+: cs := (List.takeWhile_prefix _).trans (List.take_prefix _ _)
      exact ⟨_, (List.prefix_iff_eq_append.1 front).symm, fun c => List.mem_takeWhile_imp⟩

theorem takes_readDigits {least most n : Nat} {cs rest : List Char} (read : readDigits least most cs = some (n, rest)) :
    Takes cs rest := by
  obtain ⟨digits, same, all⟩ := readDigits_eq_some read
  exact ⟨digits, same, fun c member => ne_zero_of_isDigit (all c member)⟩

theorem takes_readMark {mark : Char} {cs rest : List Char} (clean : mark.toNat ≠ 0) (read : readMark mark cs = some rest) :
    Takes cs rest := by
  obtain rfl := readMark_eq_some read
  exact takes_cons rest clean

theorem takes_readPadded {n : Nat} {cs rest : List Char} (read : readPadded cs = some (n, rest)) : Takes cs rest :=
  (takes_trimStart cs).trans (takes_readDigits read)

theorem readYear_eq_some {year : Int} {cs rest : List Char} (read : readYear cs = some (year, rest)) :
    (∃ sign start n, (sign = '-' ∨ sign = '+') ∧ trimStart cs = sign :: start
        ∧ readDigits 1 start.length start = some (n, rest))
      ∨ ∃ n, readDigits 1 4 (trimStart cs) = some (n, rest) := by
  rw [readYear] at read
  split at read
  next start same =>
      obtain ⟨⟨n, _⟩, digits, same'⟩ := Option.map_eq_some_iff.1 read
      obtain ⟨_, rfl⟩ := Prod.mk.inj same'
      exact .inl ⟨'-', start, n, .inl rfl, same, digits⟩
  next start same =>
      obtain ⟨⟨n, _⟩, digits, same'⟩ := Option.map_eq_some_iff.1 read
      obtain ⟨_, rfl⟩ := Prod.mk.inj same'
      exact .inl ⟨'+', start, n, .inr rfl, same, digits⟩
  next =>
      obtain ⟨⟨n, _⟩, digits, same'⟩ := Option.map_eq_some_iff.1 read
      obtain ⟨_, rfl⟩ := Prod.mk.inj same'
      exact .inr ⟨n, digits⟩

theorem takes_readYear {year : Int} {cs rest : List Char} (read : readYear cs = some (year, rest)) : Takes cs rest := by
  refine (takes_trimStart cs).trans ?_
  rcases readYear_eq_some read with ⟨sign, start, n, signed, same, digits⟩ | ⟨n, digits⟩
  · have clean : sign.toNat ≠ 0 := by rcases signed with rfl | rfl <;> decide
    rw [same]
    exact (takes_cons start clean).trans (takes_readDigits digits)
  · exact takes_readDigits digits

theorem takes_readOffset {separator : List Char → Option (List Char)} {offset : Int} {cs rest : List Char}
    (separates : ∀ cs rest, separator cs = some rest → Takes cs rest) (read : readOffset separator cs = some (offset, rest)) :
    Takes cs rest := by
  simp only [readOffset, Option.bind_eq_bind, Option.bind_eq_some_iff] at read
  obtain ⟨⟨west, afterSign⟩, sign, ⟨hours, afterHours⟩, readHours, beforeMinutes, between, ⟨minutes, rest'⟩, readMinutes,
    read⟩ := read
  have signs : Takes cs afterSign := by
    cases cs with
    | nil => exact absurd sign (by simp [readOffsetSign])
    | cons c cs =>
        rw [readOffsetSign] at sign
        split at sign
        next plus =>
            obtain ⟨_, rfl⟩ := Prod.mk.inj (Option.some.inj sign)
            exact takes_cons cs (by simp [plus])
        next =>
            split at sign
            next minus =>
                obtain ⟨_, rfl⟩ := Prod.mk.inj (Option.some.inj sign)
                refine takes_cons cs ?_
                rcases minus with rfl | rfl <;> decide
            next => exact absurd sign (by simp)
  split at read
  next => exact absurd read (by simp)
  next =>
      obtain ⟨_, rfl⟩ := Prod.mk.inj (Option.some.inj read)
      exact signs.trans ((takes_readDigits readHours).trans ((separates _ _ between).trans (takes_readDigits readMinutes)))

theorem takes_readLooseOffset {offset : Int} {cs rest : List Char} (read : readLooseOffset cs = some (offset, rest)) :
    Takes cs rest := by
  refine (takes_trimStart cs).trans (takes_readOffset (fun cs rest same => ?_) read)
  obtain rfl := Option.some.inj same
  refine takes_dropWhile cs fun c mark => ?_
  rcases Bool.or_eq_true_iff.1 mark with colon | blank
  · rw [beq_iff_eq.1 colon]
    decide
  · exact ne_zero_of_isBlank blank

theorem takes_readStrictOffset {offset : Int} {cs rest : List Char} (read : readStrictOffset cs = some (offset, rest)) :
    Takes cs rest := by
  rw [readStrictOffset.eq_def] at read
  split at read
  next start =>
      obtain ⟨_, rfl⟩ := Prod.mk.inj (Option.some.inj read)
      exact takes_cons start (by decide)
  next start =>
      obtain ⟨_, rfl⟩ := Prod.mk.inj (Option.some.inj read)
      exact takes_cons start (by decide)
  next => exact takes_readOffset (fun _ _ => takes_readMark (by decide)) read

theorem takes_readFraction {n : Nat} {cs rest : List Char} (read : readFraction cs = some (n, rest)) : Takes cs rest := by
  rw [readFraction.eq_def] at read
  split at read
  next start =>
      simp only at read
      split at read
      next => exact absurd read (by simp)
      next =>
          obtain ⟨_, rfl⟩ := Prod.mk.inj (Option.some.inj read)
          refine (takes_cons start (by decide)).trans ⟨start.takeWhile Char.isDigit, ?_, ?_⟩
          · exact (List.prefix_iff_eq_append.1 (List.takeWhile_prefix _)).symm
          · exact fun c member => ne_zero_of_isDigit (List.mem_takeWhile_imp member)
  next =>
      obtain ⟨_, rfl⟩ := Prod.mk.inj (Option.some.inj read)
      exact .refl cs

/-- A text is made of characters other than NUL, and a colon is among them. -/
def HasColon (cs : List Char) : Prop := (∀ c ∈ cs, c.toNat ≠ 0) ∧ ':' ∈ cs

theorem HasColon.of_takes {cs rest : List Char} (takes : Takes cs rest) (colon : HasColon rest) : HasColon cs := by
  obtain ⟨front, rfl, clean⟩ := takes
  exact ⟨List.forall_mem_append.2 ⟨clean, colon.1⟩, List.mem_append_right _ colon.2⟩

theorem Takes.hasColon {cs rest : List Char} (takes : Takes cs (':' :: rest)) (whole : Takes rest []) : HasColon cs := by
  obtain ⟨front, rfl, clean⟩ := whole
  rw [List.append_nil] at takes
  exact .of_takes takes ⟨List.forall_mem_cons.2 ⟨by decide, clean⟩, List.mem_cons_self⟩

theorem FullNotation.hasColon {cs : List Char} {m : Moment} (parts : FullNotation cs m) : HasColon cs := by
  obtain ⟨years, months, days, separates, hours, minutes, seconds, nanoseconds, offsets, _⟩ := parts
  have clean {c : Char} (separates : c = 'T' ∨ c = 't' ∨ c = ' ') : c.toNat ≠ 0 := by
    rcases separates with rfl | rfl | rfl <;> decide
  have date := (takes_readDigits years).trans ((takes_cons _ (by decide)).trans
    ((takes_readDigits months).trans ((takes_cons _ (by decide)).trans (takes_readDigits days))))
  refine (date.trans ((takes_cons _ (clean separates)).trans (takes_readDigits hours))).hasColon ?_
  exact (takes_readDigits minutes).trans ((takes_cons _ (by decide)).trans ((takes_readDigits seconds).trans
    ((takes_readFraction nanoseconds).trans (takes_readStrictOffset offsets))))

theorem MinutesNotation.hasColon {cs rest : List Char} {date : Date} {hour minute : Nat}
    (parts : MinutesNotation cs date hour minute rest) (whole : Takes rest []) : HasColon cs := by
  obtain ⟨years, months, days, hours, minutes⟩ := parts
  have date := (takes_readYear years).trans ((takes_cons _ (by decide)).trans ((takes_readPadded months).trans
    ((takes_cons _ (by decide)).trans (takes_readPadded days))))
  exact (date.trans ((takes_cons _ (by decide)).trans (takes_readPadded hours))).hasColon
    ((takes_readPadded minutes).trans whole)

/-- What is read as a moment holds a colon and no NUL. -/
theorem hasColon_of_read {s : String} {m : Moment} (read : DateNotation.isoOffset.read? s = some m) :
    HasColon (trim s.toList) := by
  cases isoNotation_of_read read with
  | full parts => exact parts.hasColon
  | offset start zone => exact start.hasColon (takes_readLooseOffset zone)
  | zulu start => exact start.hasColon (takes_cons [] (by decide))

end Datasheet.Calendar
