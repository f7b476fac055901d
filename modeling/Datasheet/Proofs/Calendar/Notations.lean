import Datasheet.Proofs.Calendar.Moments
import Datasheet.Proofs.Calendar.Openings
import Datasheet.Proofs.Calendar.Written

/-! # Documented notations

A local time is documented in five notations: in ISO-8601 with or without seconds, each with a signed offset or the letter
`Z`, and in the legacy notation. Each of them is read as the moment of its fields, whatever the fields are, so they are
read alike, and are refused alike if the day does not exist.
-/

namespace Datasheet

open Text Decimal

namespace Calendar

/-! ## Fields -/

/-- A local time to the minute, in fields of two and four digits. The day need not exist. -/
structure LocalMinute where
  year : Fin 10000
  month : Fin 100
  day : Fin 100
  hour : Fin 24
  minute : Fin 60
  deriving DecidableEq, Repr

/-- A local time to the second. -/
structure LocalTime extends LocalMinute where
  second : Fin 60
  deriving DecidableEq, Repr

/-- An offset of less than a day, west or east of Greenwich. -/
structure Zone where
  west : Bool
  hours : Fin 24
  minutes : Fin 60
  deriving DecidableEq, Repr

namespace Zone

def offset (z : Zone) : Int :=
  if z.west then -(60 * (z.hours : Int) + z.minutes) else 60 * (z.hours : Int) + z.minutes

/-- `+HH:MM` or `-HH:MM`. -/
def text (z : Zone) : List Char :=
  (if z.west then '-' else '+') :: (padded 2 z.hours ++ ':' :: padded 2 z.minutes)

theorem offset_bounds (z : Zone) : -1440 < z.offset ∧ z.offset < 1440 := by
  have hours := z.hours.isLt
  have minutes := z.minutes.isLt
  rw [offset]
  split <;> omega

end Zone

/-- What may stand after a local time in ISO-8601, and the offset it tells. -/
inductive WritesZone : List Char → Int → Prop where
  | zulu : WritesZone ['Z'] 0
  | signed (z : Zone) : WritesZone z.text z.offset

namespace LocalMinute

def date (t : LocalMinute) : Date := ⟨t.year, t.month, t.day⟩

/-- `YYYY-MM-DDTHH:MM` in front of the rest of a notation. -/
def isoText (t : LocalMinute) (rest : List Char) : List Char :=
  padded 4 t.year ++ '-' :: (padded 2 t.month ++ '-' :: (padded 2 t.day ++ 'T' :: (padded 2 t.hour
    ++ ':' :: (padded 2 t.minute ++ rest))))

/-- `YYYY-MM-DDTHH:MM` and the offset. -/
def short (t : LocalMinute) (zone : List Char) : String := String.ofList (t.isoText zone)

end LocalMinute

namespace LocalTime

def moment (t : LocalTime) (offset : Int) : Moment := ⟨t.date, t.hour, t.minute, t.second, 0, offset⟩

/-- `YYYY-MM-DDTHH:MM:SS` and the offset. -/
def full (t : LocalTime) (zone : List Char) : String :=
  String.ofList (t.isoText (':' :: (padded 2 t.second ++ zone)))

/-- The hour on a clock that has twelve of them. -/
def clockHour (t : LocalTime) : Nat := if t.hour.val % 12 = 0 then 12 else t.hour.val % 12

/-- `dd/MM/yyyy hh:mm:ss AM` or `PM`. -/
def legacyText (t : LocalTime) : List Char :=
  padded 2 t.day ++ '/' :: (padded 2 t.month ++ '/' :: (padded 4 t.year ++ ' ' :: (padded 2 t.clockHour
    ++ ':' :: (padded 2 t.minute ++ ':' :: (padded 2 t.second ++ [' ', if 12 ≤ t.hour.val then 'P' else 'A', 'M'])))))

def legacy (t : LocalTime) : String := String.ofList t.legacyText

end LocalTime

/-! ## Offsets -/

variable {zone rest : List Char} {offset : Int}

theorem writes_two {count : Nat} (le : count ≤ 100) (n : Fin count) : Writes (padded 2 n) 2 n :=
  writes_padded (by decide) (Nat.lt_of_lt_of_le n.isLt le)

/-- Each field of a local time is written in digits of its own. -/
structure LocalMinute.Written (t : LocalMinute) : Prop where
  year : Writes (padded 4 t.year) 4 t.year
  month : Writes (padded 2 t.month) 2 t.month
  day : Writes (padded 2 t.day) 2 t.day
  hour : Writes (padded 2 t.hour) 2 t.hour
  minute : Writes (padded 2 t.minute) 2 t.minute

theorem LocalMinute.written (t : LocalMinute) : t.Written :=
  ⟨writes_padded (by decide) t.year.isLt, writes_two (by decide) t.month, writes_two (by decide) t.day,
    writes_two (by decide) t.hour, writes_two (by decide) t.minute⟩

theorem Zone.readLooseOffset_text (z : Zone) : readLooseOffset z.text = some (z.offset, []) :=
  readLooseOffset_signed z.west (writes_two (by decide) z.hours) (writes_two (by decide) z.minutes)
    (Nat.le_of_lt_succ z.minutes.isLt)

namespace WritesZone

theorem head (writes : WritesZone zone offset) : ∀ c ∈ zone.head?, c ≠ ':' ∧ c ≠ '.' ∧ c.isDigit = false := by
  intro c member
  cases writes with
  | zulu =>
      obtain rfl : 'Z' = c := Option.some.inj member
      decide
  | signed z =>
      obtain rfl : (if z.west then '-' else '+') = c := Option.some.inj member
      cases z.west <;> decide

theorem endsSolid (writes : WritesZone zone offset) : EndsSolid zone := by
  cases writes with
  | zulu => exact ⟨[], 'Z', rfl, by decide⟩
  | signed z => exact .append [_] (.append _ (.append [':'] (writes_two (by decide) z.minutes).endsSolid))

theorem endsSolid_seconds (writes : WritesZone zone offset) (second : Nat) :
    EndsSolid (':' :: (padded 2 second ++ zone)) := .append [_] (.append _ writes.endsSolid)

theorem strict (writes : WritesZone zone offset) : readStrictOffset zone = some (offset, []) := by
  cases writes with
  | zulu => rfl
  | signed z =>
      exact readStrictOffset_signed z.west (writes_two (by decide) z.hours) (writes_two (by decide) z.minutes)
        (Nat.le_of_lt_succ z.minutes.isLt)

end WritesZone

/-! ## Readers of a local time -/

theorem readFull_isoText (t : LocalMinute) (rest : List Char) :
    readFull (t.isoText rest) = (do
      let cs ← readMark ':' rest
      let (second, cs) ← readDigits 2 2 cs
      let (nanosecond, cs) ← readFraction cs
      let (offset, cs) ← readStrictOffset cs
      if cs.isEmpty then Moment.make? t.date t.hour t.minute second nanosecond offset else none) := by
  rw [readFull, LocalMinute.isoText]
  -- One step for each part: simp would go through all that follows a part twice.
  refine (reads_on (t.written.year.readDigits _ (Nat.le_refl 4) rfl)).trans ?_
  refine (reads_on (readMark_self '-' _)).trans ?_
  refine (reads_on (t.written.month.readTwo _)).trans ?_
  refine (reads_on (readMark_self '-' _)).trans ?_
  refine (reads_on (t.written.day.readTwo _)).trans ?_
  refine (if_pos (.inl rfl)).trans ?_
  refine (reads_on (t.written.hour.readTwo _)).trans ?_
  refine (reads_on (readMark_self ':' _)).trans ?_
  exact reads_on (t.written.minute.readTwo _)

/-- A full notation is read as the moment of its fields. The second may be that of a leap second. -/
theorem readFull_full (t : LocalMinute) {second nanosecond : Nat} (two : second < 100)
    (fraction : readFraction rest = some (nanosecond, zone)) (zoned : readStrictOffset zone = some (offset, [])) :
    readFull (t.isoText (':' :: (padded 2 second ++ rest)))
      = Moment.make? t.date t.hour t.minute second nanosecond offset := by
  have seconds : Writes (padded 2 second) 2 second := writes_padded (by decide) two
  rw [readFull_isoText]
  simp only [readMark_self, seconds.readTwo, fraction, zoned, Option.bind_eq_bind, Option.bind_some, List.isEmpty_nil,
    if_true]

theorem readFull_short (t : LocalMinute) (other : ∀ c ∈ rest.head?, c ≠ ':') : readFull (t.isoText rest) = none := by
  rw [readFull_isoText, readMark_head other]
  rfl

theorem readMinutes_isoText (t : LocalMinute) (rest : List Char) :
    readMinutes (t.isoText rest) = some (t.date, t.hour.val, t.minute.val, rest) := by
  have year (rest : List Char) := t.written.year.readUnsigned (Nat.le_refl 4) (noDigit_cons (c := '-') rest (by decide))
  simp only [readMinutes, LocalMinute.isoText, year, readMark_self, t.written.month.readPadded,
    t.written.day.readPadded, t.written.hour.readPadded,
    t.written.minute.readPadded, Option.bind_eq_bind, Option.bind_some]
  rfl

theorem readLooseOffset_colon (cs : List Char) : readLooseOffset (':' :: cs) = none := by
  rw [readLooseOffset, trimStart_of_solid _ (by decide)]
  rfl

theorem readPadded_blank (rest : List Char) : readPadded (' ' :: rest) = readPadded rest := rfl

theorem trim_isoText (t : LocalMinute) (ends : EndsSolid rest) : trim (t.isoText rest) = t.isoText rest :=
  t.written.year.trim
    (.append [_] (.append _ (.append [_] (.append _ (.append [_] (.append _ (.append [_] (.append _ ends))))))))

theorem opens_isoText (t : LocalMinute) (rest : List Char) : Opens (t.isoText rest) '-' := by
  rw [Opens, LocalMinute.isoText, (takeWhile_digits t.written.year.all (noDigit_cons _ (by decide))).2]
  rfl

end Calendar

open Calendar

namespace DateNotation

variable {zone : List Char} {offset : Int}

/-! ## ISO-8601 -/

theorem readFirst?_ofCells (s : String) : readFirst? ofCells s = (isoOffset.read? s).or (legacy.read? s) := by
  rw [readFirst?, ofCells, List.findSome?_cons]
  cases isoOffset.read? s <;> simp

theorem isoOffset_full (t : LocalTime) (writes : WritesZone zone offset) :
    isoOffset.read? (t.full zone) = Moment.make? t.date t.hour t.minute t.second 0 offset := by
  have fraction := readFraction_head fun c member => (writes.head c member).2.1
  have second : t.second.val < 100 := Nat.lt_of_lt_of_le t.second.isLt (by decide)
  simp only [read?, LocalTime.full, String.toList_ofList, trim_isoText t.toLocalMinute (writes.endsSolid_seconds t.second),
    readFull_full t.toLocalMinute second fraction writes.strict, readMinutesWithOffset, readMinutesWithZ,
    readMinutes_isoText, readLooseOffset_colon, Option.bind_eq_bind, Option.bind_some, Option.bind_none]
  simp

theorem isoOffset_short (t : LocalMinute) (writes : WritesZone zone offset) :
    isoOffset.read? (t.short zone) = Moment.make? t.date t.hour t.minute 0 0 offset := by
  have notFull := readFull_short t fun c member => (writes.head c member).1
  simp only [read?, LocalMinute.short, String.toList_ofList, trim_isoText t writes.endsSolid, notFull, readMinutesWithOffset,
    readMinutesWithZ, readMinutes_isoText, Option.bind_eq_bind, Option.bind_some, Option.none_or]
  cases writes with
  | zulu => rfl
  | signed z =>
      have signed : z.text ≠ ['Z'] := by
        intro same
        have sign : (if z.west then '-' else '+') = 'Z' := (List.cons.inj same).1
        cases west : z.west <;> exact absurd sign (by simp [west])
      rw [if_neg signed, z.readLooseOffset_text]
      simp

theorem legacy_isoText (t : LocalMinute) {rest : List Char} (ends : EndsSolid rest) :
    legacy.read? (String.ofList (t.isoText rest)) = none := by
  have hyphen : Opens (trim (String.ofList (t.isoText rest)).toList) '-' := by
    rw [String.toList_ofList, trim_isoText t ends]
    exact opens_isoText t rest
  exact legacy_eq_none hyphen (by decide)

theorem readFirst?_full (t : LocalTime) (writes : WritesZone zone offset) :
    readFirst? ofCells (t.full zone) = Moment.make? t.date t.hour t.minute t.second 0 offset := by
  rw [readFirst?_ofCells, isoOffset_full t writes, LocalTime.full,
    legacy_isoText t.toLocalMinute (writes.endsSolid_seconds t.second), Option.or_none]

theorem readFirst?_short (t : LocalMinute) (writes : WritesZone zone offset) :
    readFirst? ofCells (t.short zone) = Moment.make? t.date t.hour t.minute 0 0 offset := by
  rw [readFirst?_ofCells, isoOffset_short t writes, LocalMinute.short, legacy_isoText t writes.endsSolid, Option.or_none]

/-! ## The legacy notation -/

theorem trim_legacyText (t : LocalTime) : trim t.legacyText = t.legacyText := by
  have ends : EndsSolid [' ', if 12 ≤ t.hour.val then 'P' else 'A', 'M'] :=
    .append [_, _] ⟨[], 'M', rfl, by decide⟩
  exact t.written.day.trim (.append [_] (.append _ (.append [_] (.append _ (.append [_] (.append _
    (.append [_] (.append _ (.append [_] (.append _ ends))))))))))

theorem hour_of_clockHour (t : LocalTime) :
    t.clockHour % 12 + (if decide (12 ≤ t.hour.val) then 12 else 0) = t.hour.val ∧ 1 ≤ t.clockHour ∧ t.clockHour ≤ 12 := by
  have hour := t.hour.isLt
  simp only [LocalTime.clockHour, decide_eq_true_eq]
  split <;> split <;> omega

theorem readLegacy_legacyText (t : LocalTime) :
    readLegacy t.legacyText = Moment.make? t.date t.hour t.minute t.second 0 0 := by
  obtain ⟨same, least, most⟩ := hour_of_clockHour t
  have clock : Writes (padded 2 t.clockHour) 2 t.clockHour := writes_padded (by decide) (by omega)
  have half : readHalf (trimStart [' ', if 12 ≤ t.hour.val then 'P' else 'A', 'M']) = some (decide (12 ≤ t.hour.val), []) := by
    by_cases afternoon : 12 ≤ t.hour.val
    · simp only [afternoon, if_true, decide_true]
      rfl
    · simp only [afternoon, if_false, decide_false]
      rfl
  rw [readLegacy, LocalTime.legacyText]
  refine (reads_on (t.written.day.readPadded _)).trans ?_
  refine (reads_on (readMark_self '/' _)).trans ?_
  refine (reads_on (t.written.month.readPadded _)).trans ?_
  refine (reads_on (readMark_self '/' _)).trans ?_
  refine (reads_on (t.written.year.readUnsigned (Nat.le_refl 4) (noDigit_cons _ (by decide)))).trans ?_
  refine (reads_on ((readPadded_blank _).trans (clock.readPadded _))).trans ?_
  refine (reads_on (readMark_self ':' _)).trans ?_
  refine (reads_on (t.written.minute.readPadded _)).trans ?_
  refine (reads_on (readMark_self ':' _)).trans ?_
  refine (reads_on ((writes_two (by decide) t.second).readPadded _)).trans ?_
  refine (reads_on half).trans ?_
  simp only [List.isEmpty_nil, least, most, decide_true, Bool.and_self, if_true, same]
  rfl

theorem isoOffset_legacyText (t : LocalTime) : isoOffset.read? t.legacy = none := by
  have slash : Opens (trim t.legacy.toList) '/' := by
    rw [LocalTime.legacy, String.toList_ofList, trim_legacyText, Opens, LocalTime.legacyText,
      (takeWhile_digits t.written.day.all (noDigit_cons _ (by decide))).2]
    rfl
  exact isoOffset_eq_none slash (by decide)

theorem readFirst?_legacy (t : LocalTime) :
    readFirst? ofCells t.legacy = Moment.make? t.date t.hour t.minute t.second 0 0 := by
  have read : legacy.read? t.legacy = Moment.make? t.date t.hour t.minute t.second 0 0 := by
    rw [← readLegacy_legacyText t, read?.eq_def, LocalTime.legacy, String.toList_ofList, trim_legacyText]
  rw [readFirst?_ofCells, isoOffset_legacyText, read, Option.none_or]

end DateNotation

/-! ## Moments of the fields -/

namespace Calendar

theorem LocalTime.make?_moment (t : LocalTime) {offset : Int} (valid : t.date.isValid = true) (west : -1440 < offset)
    (east : offset < 1440) : Moment.make? t.date t.hour t.minute t.second 0 offset = some (t.moment offset) := by
  have hour := t.hour.isLt
  have minute := t.minute.isLt
  have second := t.second.isLt
  have least : 0 ≤ t.date.year := Int.natCast_nonneg _
  have most : t.date.year ≤ 9999 := Int.ofNat_le.2 (Nat.le_of_lt_succ t.year.isLt)
  have seconds : (t.moment offset).secondOfDay < 86400 := by
    simp only [moment, Moment.secondOfDay]
    omega
  have ordinary : ¬t.second.val = 60 := Nat.ne_of_lt second
  exact Moment.make?_eq_some_iff.2 ⟨⟨valid, ⟨by omega, by omega⟩, hour, minute, Nat.le_of_lt (by omega), west, east⟩,
    if_neg ordinary, Moment.isInRange_of_year valid least most seconds west east⟩

end Calendar

/-- The documented notations of a local time are read alike. Each tells the local time of its fields, with the offset that it
    states or in UTC; a short notation leaves out a second of zero. If the day does not exist, each of them is refused. -/
theorem DateNotation.documented_notations_agree (t : LocalTime) (z : Zone) :
    (t.date.isValid = true →
        isoOffset.read? (t.full z.text) = some (t.moment z.offset)
          ∧ (t.second = 0 → isoOffset.read? (t.short z.text) = some (t.moment z.offset))
          ∧ (z.offset = 0 →
              isoOffset.read? (t.full ['Z']) = some (t.moment z.offset)
                ∧ (t.second = 0 → isoOffset.read? (t.short ['Z']) = some (t.moment z.offset))
                ∧ readFirst? ofCells t.legacy = some (t.moment z.offset)))
      ∧ (t.date.isValid = false →
          ∀ s ∈ [t.full z.text, t.short z.text, t.full ['Z'], t.short ['Z'], t.legacy], readFirst? ofCells s = none) := by
  refine ⟨fun valid => ?_, fun invalid => ?_⟩
  · obtain ⟨west, east⟩ := z.offset_bounds
    have made {offset : Int} (west : -1440 < offset) (east : offset < 1440) := t.make?_moment valid west east
    have short {offset : Int} {zone : List Char} (writes : WritesZone zone offset) (west : -1440 < offset)
        (east : offset < 1440) (zero : t.second = 0) : isoOffset.read? (t.short zone) = some (t.moment offset) := by
      have second : t.second.val = 0 := congrArg Fin.val zero
      have told := made west east
      rw [second] at told
      rw [isoOffset_short t.toLocalMinute writes, told]
    refine ⟨?_, short (.signed z) west east, fun utc => ?_⟩
    · rw [isoOffset_full t (.signed z), made west east]
    · rw [utc]
      refine ⟨?_, short .zulu (by decide) (by decide), ?_⟩
      · rw [isoOffset_full t .zulu, made (by decide) (by decide)]
      · rw [readFirst?_legacy, made (by decide) (by decide)]
  · have refused := Moment.make?_of_invalid invalid
    simp only [List.forall_mem_cons, readFirst?_full t (.signed z), readFirst?_full t .zulu,
      readFirst?_short t.toLocalMinute (.signed z), readFirst?_short t.toLocalMinute .zulu, readFirst?_legacy, refused,
      List.not_mem_nil, false_imp_iff, implies_true, and_self]

/-- The last hour of a leap day is read west of Greenwich and in UTC. The day after it is refused. -/
theorem DateNotation.documented_notations_agree_leapDay :
    isoOffset.read? "2024-02-29T23:30-05:45" = some ⟨⟨2024, 2, 29⟩, 23, 30, 0, 0, -345⟩
      ∧ readFirst? ofCells "29/02/2024 11:30:00 PM" = some ⟨⟨2024, 2, 29⟩, 23, 30, 0, 0, 0⟩
      ∧ readFirst? ofCells "30/02/2024 12:00:00 AM" = none := by
  have short : LocalMinute.short ⟨2024, 2, 29, 23, 30⟩ (Zone.text ⟨true, 5, 45⟩) = "2024-02-29T23:30-05:45" := by decide
  have evening : LocalTime.legacy ⟨⟨2024, 2, 29, 23, 30⟩, 0⟩ = "29/02/2024 11:30:00 PM" := by decide
  have midnight : LocalTime.legacy ⟨⟨2024, 2, 30, 0, 0⟩, 0⟩ = "30/02/2024 12:00:00 AM" := by decide
  have west := (documented_notations_agree ⟨⟨2024, 2, 29, 23, 30⟩, 0⟩ ⟨true, 5, 45⟩).1 (by decide)
  have utc := (documented_notations_agree ⟨⟨2024, 2, 29, 23, 30⟩, 0⟩ ⟨false, 0, 0⟩).1 (by decide)
  have refused := (documented_notations_agree ⟨⟨2024, 2, 30, 0, 0⟩, 0⟩ ⟨false, 0, 0⟩).2 (by decide)
  refine ⟨?_, ?_, ?_⟩
  · rw [← short]
    exact west.2.1 rfl
  · rw [← evening]
    exact (utc.2.2 rfl).2.2
  · rw [← midnight]
    exact refused _ (by simp)

end Datasheet
