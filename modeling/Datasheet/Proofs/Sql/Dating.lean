import Datasheet.Proofs.Calendar.Normalizing
import Datasheet.Proofs.Sql.Accepting
import Datasheet.Proofs.Sql.Agreement
import Datasheet.Proofs.Sql.Comparing

/-! # Dates compared as days

The engine compares moments by their days in UTC and leaves out what it does not read. So a selection by a date keeps the
same rows as the engine, but for those on the day of the filter's value and those whose cells the engine does not read.
-/

namespace Datasheet

open Text Calendar

namespace Calendar.Moment

/-- The number of the day in UTC that a moment falls on. -/
def utcDay (m : Moment) : Int := m.seconds / 86400

theorem utcDay_mono {m n : Moment} (precedes : m.Precedes n) : m.utcDay ≤ n.utcDay := by
  refine Int.ediv_le_ediv (by decide) ?_
  rcases precedes with less | ⟨same, _⟩
  · exact less.le
  · exact same.le

/-- One moment falls on an earlier day than another exactly if it comes first and they do not share a day. -/
theorem utcDay_lt_iff (m n : Moment) : m.utcDay < n.utcDay ↔ m.Precedes n ∧ m.utcDay ≠ n.utcDay := by
  constructor
  · intro less
    refine ⟨.inl ?_, less.ne⟩
    by_contra notLess
    exact absurd less (not_lt.2 (Int.ediv_le_ediv (by decide) (not_lt.1 notLess)))
  · rintro ⟨precedes, other⟩
    exact lt_of_le_of_ne (utcDay_mono precedes) other

/-- The first and the last date that have years of four digits. -/
def firstDate : Date := ⟨0, 1, 1⟩

@[inherit_doc firstDate]
def lastDate : Date := ⟨9999, 12, 31⟩

theorem dayNumber_firstDate : firstDate.dayNumber = -719528 := by decide

theorem dayNumber_lastDate : lastDate.dayNumber = 2932896 := by decide

/-- The engine's arithmetic finds the day of a moment in UTC: the day has a year of four digits, and it is told by the
    moment itself, or it is not the lost day and the moment is not rounded into the next day. -/
def IsDatable (m : Moment) : Prop :=
  firstDate.dayNumber ≤ m.utcDay ∧ m.utcDay ≤ lastDate.dayNumber
    ∧ (m.offset = 0 ∧ m.date.day ≤ 28
      ∨ m.utcDay ≠ Sql.Day.lostDay.dayNumber ∧ (m.nanosecond < 999000000 ∨ (m.seconds + 1) % 86400 ≠ 0))

instance (m : Moment) : Decidable m.IsDatable :=
  inferInstanceAs (Decidable (firstDate.dayNumber ≤ m.utcDay ∧ m.utcDay ≤ lastDate.dayNumber
    ∧ (m.offset = 0 ∧ m.date.day ≤ 28
      ∨ m.utcDay ≠ Sql.Day.lostDay.dayNumber ∧ (m.nanosecond < 999000000 ∨ (m.seconds + 1) % 86400 ≠ 0))))

theorem IsDatable.exists_date {m : Moment} (datable : m.IsDatable) :
    ∃ d : Date, d.isValid = true ∧ 0 ≤ d.year ∧ d.year ≤ 9999 ∧ d.dayNumber = m.utcDay := by
  obtain ⟨least, most, _⟩ := datable
  have first : firstDate.isValid = true := by decide
  have last : lastDate.isValid = true := by decide
  obtain ⟨d, valid, number⟩ := Date.exists_dayNumber first least
  have late : ¬d.Precedes firstDate := by
    rw [← Date.dayNumber_lt_iff valid first, number]
    exact not_lt.2 least
  have early : ¬lastDate.Precedes d := by
    rw [← Date.dayNumber_lt_iff last valid, number]
    exact not_lt.2 most
  refine ⟨d, valid, ?_, ?_, number⟩
  · by_contra negative
    exact late (.inl (not_le.1 negative))
  · by_contra large
    exact early (.inl (not_le.1 large))

end Calendar.Moment

namespace Sql

namespace Stamp

variable {stamp : Stamp} {m : Moment} (clock : Clock)

theorem Tells.count? (tells : Tells stamp m) (least : -1 ≤ m.date.year) :
    ∃ rest : Int, stamp.count? clock = some (1000 * m.seconds + Day.epoch + rest) ∧ 0 ≤ rest
      ∧ rest ≤ (m.nanosecond / 1000000 : Nat) + 1 := by
  obtain ⟨ms, rfl, low, high⟩ := tells.told
  refine ⟨ms - 1000 * m.second, ?_, by omega, by omega⟩
  rw [Stamp.count?, Day.start?_eq tells.valid least tells.year]
  simp only [Option.map_some, Moment.seconds, Moment.secondOfDay, Day.length]
  congr 1
  push_cast
  omega

theorem Tells.seconds (tells : Tells stamp m) :
    m.seconds < 86400 * (m.date.dayNumber + 2) ∧ (m.offset = 0 → m.utcDay = m.date.dayNumber) := by
  have hour := tells.hour
  have minute := tells.minute
  have second := tells.second
  obtain ⟨east, west⟩ := tells.offset
  simp only [Moment.utcDay, Moment.seconds, Moment.secondOfDay]
  omega

theorem Tells.year_ge (tells : Tells stamp m) (datable : m.IsDatable) : -1 ≤ m.date.year := by
  by_contra early
  have lastBefore : (Date.mk (-1) 12 31).isValid = true := by decide
  have precedes : m.date.Precedes (Date.mk (-1) 12 31) := .inl (not_le.1 early)
  have less := Date.dayNumber_lt_of_precedes tells.valid lastBefore precedes
  have number : (Date.mk (-1) 12 31).dayNumber + 1 = Moment.firstDate.dayNumber := by decide
  have least := datable.1
  have seconds := tells.seconds.1
  rw [Moment.utcDay] at least
  omega

theorem inRange_iff {milliseconds : Int} :
    Day.inRange milliseconds = true ↔ 0 ≤ milliseconds ∧ milliseconds ≤ 464269060799999 := by
  simp [Day.inRange]

theorem Tells.day?_of_told (tells : Tells stamp m) (datable : m.IsDatable) (told : m.offset = 0 ∧ m.date.day ≤ 28) :
    stamp.day? clock = some (Day.ofDate m.date) := by
  obtain ⟨rest, count, low, high⟩ := tells.count? clock (tells.year_ge datable)
  obtain ⟨ms, same, _, _⟩ := tells.told
  have small := tells.nanosecond
  -- The last day of all is no 28th, so a second that is rounded up stays within the range.
  have notLast : m.utcDay ≠ Moment.lastDate.dayNumber := by
    intro atEnd
    have here : m.date = Moment.lastDate :=
      Date.eq_of_dayNumber_eq tells.valid (by decide) ((tells.seconds.2 told.1).symm.trans atEnd)
    exact absurd told.2 (by rw [here]; decide)
  have inside : Day.inRange (1000 * m.seconds + Day.epoch + rest) = true := by
    obtain ⟨first, last, _⟩ := datable
    rw [Moment.dayNumber_firstDate] at first
    rw [Moment.dayNumber_lastDate] at last notLast
    rw [Moment.utcDay] at first last notLast
    rw [inRange_iff, Day.epoch]
    omega
  have toldDay : stamp.toldDay? = some (Day.ofDate m.date) := by
    rw [same]
    exact if_pos ⟨told.1, by simpa [Day.ofDate] using told.2⟩
  rw [day?, count, Option.bind_eq_bind, Option.bind_some, if_pos inside, toldDay]
  rfl

theorem Tells.day?_of_count (tells : Tells stamp m) (datable : m.IsDatable) (told : ¬(m.offset = 0 ∧ m.date.day ≤ 28))
    {d : Date} (valid : d.isValid = true) (least : 0 ≤ d.year) (most : d.year ≤ 9999) (number : d.dayNumber = m.utcDay) :
    stamp.day? clock = some (Day.ofDate d) := by
  obtain ⟨rest, count, low, high⟩ := tells.count? clock (tells.year_ge datable)
  obtain ⟨ms, same, _, _⟩ := tells.told
  obtain ⟨first, last, known⟩ := datable
  obtain ⟨other, rounded⟩ := known.resolve_left told
  have small := tells.nanosecond
  have parts : m.seconds = 86400 * m.utcDay + m.seconds % 86400 ∧ 0 ≤ m.seconds % 86400
      ∧ m.seconds % 86400 < 86400 := by
    rw [Moment.utcDay]
    omega
  have bounds : 0 ≤ 1000 * (m.seconds % 86400) + rest ∧ 1000 * (m.seconds % 86400) + rest < Day.length := by
    rw [Day.length]
    omega
  have whole : 1000 * m.seconds + Day.epoch + rest
      = Day.length * d.dayNumber + Day.epoch + (1000 * (m.seconds % 86400) + rest) := by
    rw [number, Day.length]
    omega
  have inside : Day.inRange (1000 * m.seconds + Day.epoch + rest) = true := by
    rw [Moment.dayNumber_firstDate] at first
    rw [Moment.dayNumber_lastDate] at last
    rw [Day.length] at bounds
    rw [inRange_iff, Day.epoch]
    omega
  have toldDay : stamp.toldDay? = none := by
    rw [same]
    exact if_neg (by simpa [Day.ofDate] using told)
  have otherDay : d ≠ Day.lostDay := by
    rintro rfl
    exact other number.symm
  rw [day?, count, Option.bind_eq_bind, Option.bind_some, if_pos inside, toldDay, whole,
    Day.ofCount_eq valid least most otherDay bounds.1 bounds.2]
  rfl

/-- The engine finds the day in UTC of a datable moment that it reads. -/
theorem Tells.day_eq (tells : Tells stamp m) (datable : m.IsDatable) :
    ∃ d : Date, d.isValid = true ∧ 0 ≤ d.year ∧ d.year ≤ 9999 ∧ d.dayNumber = m.utcDay
      ∧ stamp.day? clock = some (Day.ofDate d) := by
  obtain ⟨d, valid, least, most, number⟩ := datable.exists_date
  refine ⟨d, valid, least, most, number, ?_⟩
  by_cases told : m.offset = 0 ∧ m.date.day ≤ 28
  · have here : m.date = d :=
      Date.eq_of_dayNumber_eq tells.valid valid ((tells.seconds.2 told.1).symm.trans number.symm)
    exact here ▸ tells.day?_of_told clock datable told
  · exact tells.day?_of_count clock datable told valid least most number

/-- The engine does not read the text, or it finds the days of the moment that the text holds. -/
def IsSettled (s : String) : Prop := Reads s → ∀ m ∈ DateNotation.isoOffset.read? s, m.IsDatable

instance (s : String) : Decidable (IsSettled s) :=
  inferInstanceAs (Decidable (Reads s → ∀ m ∈ DateNotation.isoOffset.read? s, m.IsDatable))

/-- A text does not hold a moment of the same day in UTC. -/
def OnOtherDay (n : Moment) (s : String) : Prop := ∀ m ∈ DateNotation.isoOffset.read? s, m.utcDay ≠ n.utcDay

instance (n : Moment) (s : String) : Decidable (OnOtherDay n s) :=
  inferInstanceAs (Decidable (∀ m ∈ DateNotation.isoOffset.read? s, m.utcDay ≠ n.utcDay))

/-- A text is a moment that is written out in a year of four digits, in no leap second and with an offset below fifteen
    hours, and the engine's arithmetic finds its day. -/
def IsWrittenOut (s : String) : Prop :=
  ∃ m ∈ DateNotation.isoOffset.read? s, s = m.iso ∧ 0 ≤ m.date.year ∧ m.date.year ≤ 9999
    ∧ m.nanosecond < 1000000000 ∧ -900 < m.offset ∧ m.offset < 900 ∧ m.IsDatable

instance (s : String) : Decidable (IsWrittenOut s) :=
  inferInstanceAs (Decidable (∃ m ∈ DateNotation.isoOffset.read? s, s = m.iso ∧ 0 ≤ m.date.year ∧ m.date.year ≤ 9999
    ∧ m.nanosecond < 1000000000 ∧ -900 < m.offset ∧ m.offset < 900 ∧ m.IsDatable))

theorem IsWrittenOut.reads {s : String} (written : IsWrittenOut s) : Reads s := by
  obtain ⟨m, read, rfl, least, most, ordinary, west, east, _⟩ := written
  exact reads_iso (isProper_of_read read) least most ordinary west east

theorem IsWrittenOut.isSettled {s : String} (written : IsWrittenOut s) : IsSettled s := by
  obtain ⟨m, read, _, _, _, _, _, _, datable⟩ := written
  intro _ m' read'
  obtain rfl : m = m' := Option.some.inj (read.symm.trans read')
  exact datable

theorem isSettled_empty : IsSettled "" := fun reads => absurd reads (by decide)

theorem day_of_unread {s : String} (unread : ¬Reads s) : Value.day clock (.text s) = .null := by
  have unreadText : ofText? (s.toList.takeWhile (·.toNat != 0)) = none := by simpa [Reads] using unread
  simp [Value.day, Value.text?, Value.toText, unreadText]

theorem day_of_reads {s : String} (reads : Reads s) (read : DateNotation.isoOffset.read? s = some m)
    (settled : IsSettled s) :
    ∃ d : Date, d.isValid = true ∧ 0 ≤ d.year ∧ d.year ≤ 9999 ∧ d.dayNumber = m.utcDay
      ∧ Value.day clock (.text s) = .text (Day.ofDate d).text := by
  obtain ⟨stamp, told⟩ := Option.isSome_iff_exists.1 reads
  obtain ⟨d, valid, least, most, number, day⟩ := (tells_of_read read told).day_eq clock (settled reads m read)
  refine ⟨d, valid, least, most, number, ?_⟩
  simp [Value.day, Value.text?, Value.toText, told, day]

end Stamp

/-! ## Comparing days -/

theorem dateComparison_text (op : DateOperator) (s t : String) :
    (QueryBuilder.dateComparison op).holds (.text s) (.text t) = true
      ↔ match op with
        | .before => s < t
        | .after => t < s := by
  cases op with
  | before =>
      change (compare s t == .lt) = true ↔ s < t
      rw [beq_iff_eq, compare_lt_iff_lt]
  | after =>
      change (compare s t == .gt) = true ↔ t < s
      rw [beq_iff_eq, compare_gt_iff_gt]

/-- Days are compared as the moments that fall on them, unless they are the same. -/
theorem dateComparison_day {op : DateOperator} {cell value : String} {m n : Moment} (clock : Clock)
    (read : DateNotation.isoOffset.read? cell = some m) (read' : DateNotation.isoOffset.read? value = some n)
    (settled : Stamp.IsSettled cell) (settled' : Stamp.IsSettled value) :
    (QueryBuilder.dateComparison op).holds (Value.day clock (.text cell)) (Value.day clock (.text value)) = true
      ↔ (Stamp.Reads value ∧ Stamp.Reads cell ∧ m.utcDay ≠ n.utcDay) ∧ op.Relates m n := by
  by_cases reads : Stamp.Reads cell
  · by_cases reads' : Stamp.Reads value
    · obtain ⟨d, valid, least, most, number, day⟩ := Stamp.day_of_reads clock reads read settled
      obtain ⟨d', valid', least', most', number', day'⟩ := Stamp.day_of_reads clock reads' read' settled'
      rw [day, day', dateComparison_text]
      cases op with
      | before =>
          simp only [Day.text_lt_iff valid valid' least least' most most']
          rw [← Date.dayNumber_lt_iff valid valid', number, number', Moment.utcDay_lt_iff]
          simp only [reads, reads', true_and, DateOperator.Relates]
          exact and_comm
      | after =>
          simp only [Day.text_lt_iff valid' valid least' least most' most]
          rw [← Date.dayNumber_lt_iff valid' valid, number, number', Moment.utcDay_lt_iff]
          simp only [reads, reads', true_and, DateOperator.Relates, ne_comm]
          exact and_comm
    · rw [Stamp.day_of_unread clock reads']
      cases Value.day clock (.text cell) <;> simp [Comparison.holds, Value.compare?, reads']
  · rw [Stamp.day_of_unread clock reads]
    simp [Comparison.holds, Value.compare?, reads]

theorem read?_trimmed (form : DateNotation) (value : String) : form.read? (trimmed value) = form.read? value := by
  rw [DateNotation.read?.eq_def, DateNotation.read?.eq_def, trimmed, String.toList_ofList, trim_trim]

theorem ne_empty_of_admits {field cell value : String} {op : DateOperator} {ignoreCase : Bool}
    (admits : Filter.Admits ⟨field, .date op, value⟩ ignoreCase cell) : cell ≠ "" := by
  rintro rfl
  obtain ⟨m, read, _⟩ := admits
  have emptyUnread : DateNotation.readFirst? DateNotation.ofCells "" = none := by decide
  exact absurd read (by simp [emptyUnread])

/-- The engine lets a cell pass a filter by a date. -/
def passesDate (op : DateOperator) (value : String) (clock : Clock) (cell : String) : Bool :=
  (QueryBuilder.dateComparison op).holds (Value.day clock (.text cell)) (Value.day clock (.text (trimmed value)))

/-- The engine lets a cell pass that the filter admits, unless the cell or the value is not read or both have one day. -/
theorem passesDate_iff_admits {field cell value : String} {op : DateOperator} {n : Moment} (clock : Clock)
    (date : cell ≠ "" → isIsoMoment cell = true) (read : DateNotation.isoOffset.read? value = some n)
    (settled : Stamp.IsSettled cell) (settled' : Stamp.IsSettled (trimmed value)) :
    passesDate op value clock cell = true
      ↔ (Stamp.Reads (trimmed value) ∧ Stamp.Reads cell ∧ Stamp.OnOtherDay n cell)
        ∧ Filter.Admits ⟨field, .date op, value⟩ true cell := by
  rw [passesDate]
  by_cases filled : cell = ""
  · subst filled
    have unread : ¬Stamp.Reads "" := by decide
    rw [Stamp.day_of_unread clock unread]
    simp [Comparison.holds, Value.compare?, unread]
  · obtain ⟨m, cellRead⟩ := Option.isSome_iff_exists.1 (date filled)
    have first : DateNotation.readFirst? DateNotation.ofCells cell = some m := by
      simp [DateNotation.readFirst?, DateNotation.ofCells, cellRead]
    rw [dateComparison_day clock cellRead (by rw [read?_trimmed, read]) settled settled']
    simp [Stamp.OnOtherDay, Filter.Admits, Operator.Admits, cellRead, first, read]

namespace Engine

variable {e : Engine} {field value : String}

theorem Checked.holds_day (checked : e.Checked) (column : e.IsPlainColumn field) (row : Row) (op : DateOperator) :
    (Test.compare (.day (QueryBuilder.column field)) (QueryBuilder.dateComparison op)
        (.day (.text (trimmed value)))).holds e.table row = .ok (passesDate op value e.clock (e.cell field row)) := by
  have left : (Scalar.day (QueryBuilder.column field)).value e.table row
      = Value.day e.clock (.text (e.cell field row)) :=
    congrArg (Value.day e.clock) (checked.value_ofText column row)
  have right : (Scalar.day (.text (trimmed value))).value e.table row = Value.day e.clock (.text (trimmed value)) := rfl
  simp only [Test.holds, left, right, Scalar.isNumeric, Bool.false_eq_true, if_false, passesDate]

theorem isIsoMoment_cells {settings : SchemaSettings} {lexicon : Lexicon} {schema : Schema}
    (inferred : Schema.infer settings lexicon e.dataset = .ok schema) (kind : schema.kindOf? field = some .date)
    {cell : String} (member : cell ∈ e.dataset.sheet.cellsOf field) (filled : cell ≠ "") : isIsoMoment cell = true := by
  have known := Schema.infer_kindOf? inferred kind
  refine Kind.isIsoMoment_of_ofCells ?_ member filled
  cases kinds : Kind.ofCells (e.dataset.sheet.cellsOf field) with
  | date => rfl
  | number | text | empty => exact absurd known (by simp [kinds, Kind.settled])

/-- Of the rows whose cell is settled, the engine lets those pass that a selection keeps, whose cell it reads and whose
    cell has another day than the filter's value. -/
theorem filter_passesDate {op : DateOperator} {n : Moment} (clock : Clock) {rows : List (List String)}
    {cell : List String → String} (dates : ∀ cells ∈ rows, cell cells ≠ "" → isIsoMoment (cell cells) = true)
    (read : DateNotation.isoOffset.read? value = some n) (settled : Stamp.IsSettled (trimmed value)) :
    (rows.filter fun cells => passesDate op value clock (cell cells) = true).filter
        (fun cells => Stamp.IsSettled (cell cells))
      = (rows.filter fun cells => Filter.Admits ⟨field, .date op, value⟩ true (cell cells)).filter fun cells =>
        Stamp.IsSettled (cell cells) ∧ Stamp.Reads (trimmed value) ∧ Stamp.Reads (cell cells)
          ∧ Stamp.OnOtherDay n (cell cells) := by
  rw [List.filter_filter, List.filter_filter]
  refine List.filter_congr fun cells member => ?_
  have agreed (settledCell : Stamp.IsSettled (cell cells)) :=
    @passesDate_iff_admits field (cell cells) value op n clock (dates cells member) read settledCell settled
  rw [← Bool.decide_and, ← Bool.decide_and, decide_eq_decide]
  constructor
  · rintro ⟨settledCell, pass⟩
    obtain ⟨known, admits⟩ := (agreed settledCell).1 pass
    exact ⟨⟨settledCell, known⟩, admits⟩
  · rintro ⟨⟨settledCell, known⟩, admits⟩
    exact ⟨settledCell, (agreed settledCell).2 ⟨known, admits⟩⟩

theorem checkFilter_date {settings : SchemaSettings} {lexicon : Lexicon} {schema : Schema} {op : DateOperator}
    {n : Moment} (inferred : Schema.infer settings lexicon e.dataset = .ok schema)
    (kind : schema.kindOf? field = some .date) (read : DateNotation.isoOffset.read? value = some n)
    (filters : List Filter) : (e.builder schema filters).checkFilter ⟨field, .date op, value⟩ = .ok () := by
  have allowed : (e.builder schema filters).checkField field = .ok () :=
    QueryBuilder.checkField_eq_ok (Schema.mem_fieldNames kind)
  have known : Dictionary.get? field (e.builder schema filters).kinds = some .date :=
    (kinds_builder inferred field).trans kind
  rw [QueryBuilder.checkFilter, allowed, known]
  simp [Filter.reading, read, Operator.domain, bind, Except.bind]

/-- A filter by a date under a field that is inferred to hold dates. The engine answers the rows that a selection keeps,
    without those whose cell it does not read and those whose cell has the day in UTC of the filter's value; if it
    does not read the value, no row is left. All this is said of the cells whose day the engine's arithmetic finds. The
    engine answers all rows on other days if it reads every filled cell, as it does where moments are written out. -/
theorem dates_differ_within_days (e : Engine) (settings : SchemaSettings) (lexicon : Lexicon) (schema : Schema)
    (field value : String) (op : DateOperator) (n : Moment) (s : Session Unit Bool) (connected : e.connect = .ok true)
    (plain : e.HasPlainColumns) (inferred : Schema.infer settings lexicon e.dataset = .ok schema)
    (kind : schema.kindOf? field = some .date) (read : DateNotation.isoOffset.read? value = some n)
    (settled : Stamp.IsSettled (trimmed value)) :
    let filters : List Filter := [⟨field, .date op, value⟩]
    let cell (cells : List String) : String := cells.getD (e.dataset.sheet.header.idxOf field) ""
    ∃ answer selected : Sheet,
      (s.ask e.backend (e.builder schema filters) .all).1 = .ok answer
        ∧ Selection.run { filters := filters } e.dataset = .ok selected
        ∧ answer.header = selected.header
        ∧ (answer.rows.filter fun cells => Stamp.IsSettled (cell cells))
          = (selected.rows.filter fun cells =>
            Stamp.IsSettled (cell cells) ∧ Stamp.Reads (trimmed value) ∧ Stamp.Reads (cell cells)
              ∧ Stamp.OnOtherDay n (cell cells))
        ∧ (Stamp.Reads (trimmed value)
          → (∀ c ∈ e.dataset.sheet.cellsOf field, c ≠ "" → Stamp.Reads c ∧ Stamp.IsSettled c)
          → answer.rows = selected.rows.filter fun cells => Stamp.OnOtherDay n (cell cells))
        ∧ (Stamp.IsWrittenOut (trimmed value)
          → (∀ c ∈ e.dataset.sheet.cellsOf field, c ≠ "" → Stamp.IsWrittenOut c)
          → answer.rows = selected.rows.filter fun cells => Stamp.OnOtherDay n (cell cells)) := by
  intro filters cell
  have checked := checked_of_connect connected
  have column : e.IsPlainColumn field := by
    refine plain.isPlainColumn ?_
    rw [← (Schema.infer_fieldNames inferred).1]
    exact Schema.mem_fieldNames kind
  have clean : NulFree (QueryBuilder.literalOf ⟨field, .date op, value⟩) := by
    intro c member
    change c ∈ (trimmed value).toList at member
    rw [trimmed, String.toList_ofList] at member
    exact (hasColon_of_read read).1 c member
  obtain ⟨answer, replied, header, rows⟩ := @reply_of_told e (e.builder schema filters) ⟨field, .date op, value⟩
    connected rfl rfl column (checkFilter_date inferred kind read filters) clean
    (fun c => passesDate op value e.clock c = true) inferInstance
    fun row _ => Check.allHold_singleton ((checked.holds_day column row op).trans (by simp))
  have readable : Filter.IsReadable ⟨field, .date op, value⟩ := by simp [Filter.IsReadable, Operator.Reads, read]
  obtain ⟨selected, ran, header', kept⟩ := @run_single e ⟨field, .date op, value⟩ column.1 readable true
  have inside : ∀ cells ∈ e.dataset.sheet.rows, cell cells ∈ e.dataset.sheet.cellsOf field := fun cells member => by
    rw [cellsOf_eq_map column.1]
    exact List.mem_map_of_mem member
  have settledRows : (answer.rows.filter fun cells => Stamp.IsSettled (cell cells))
      = (selected.rows.filter fun cells =>
        Stamp.IsSettled (cell cells) ∧ Stamp.Reads (trimmed value) ∧ Stamp.Reads (cell cells)
          ∧ Stamp.OnOtherDay n (cell cells)) := by
    rw [rows, kept]
    exact filter_passesDate e.clock (fun cells member => isIsoMoment_cells inferred kind (inside cells member)) read settled
  have whole (reads : Stamp.Reads (trimmed value))
      (all : ∀ c ∈ e.dataset.sheet.cellsOf field, c ≠ "" → Stamp.Reads c ∧ Stamp.IsSettled c) :
      answer.rows = selected.rows.filter fun cells => Stamp.OnOtherDay n (cell cells) := by
    have settledCell : ∀ cells ∈ answer.rows, Stamp.IsSettled (cell cells) := fun cells member => by
      rw [rows] at member
      by_cases filled : cell cells = ""
      · exact filled ▸ Stamp.isSettled_empty
      · exact (all _ (inside cells (List.mem_of_mem_filter member)) filled).2
    rw [← List.filter_eq_self.2 fun cells member => decide_eq_true (settledCell cells member), settledRows]
    refine List.filter_congr fun cells member => decide_eq_decide.2 ⟨fun known => known.2.2.2, fun other => ?_⟩
    rw [kept, List.mem_filter] at member
    have known := all _ (inside cells member.1) (ne_empty_of_admits (of_decide_eq_true member.2))
    exact ⟨known.2, reads, known.1, other⟩
  refine ⟨answer, selected, ?_, ran, header.trans header'.symm, settledRows, whole, fun written all => ?_⟩
  · rw [ask_backend connected, replied]
  · exact whole written.reads fun c member filled => ⟨(all c member filled).reads, (all c member filled).isSettled⟩

/-- Three events. The offset of the first one has no colon, and the last one is on the first of March in UTC. -/
def events : Engine where
  tableName := "events"
  dataset := ⟨"events", ⟨["id", "at"], [["a", "2021-03-10T09:00+0100"], ["b", "2021-03-10T09:00:00.5+01:00"],
    ["c", "2021-03-01T23:00Z"]], by decide⟩⟩

/-- The schema of the events, without main values. -/
def eventSchema : Schema where
  name := "events"
  fields := [
    { name := "id", readableNames := [("en", "id")], kind := .text, distinct := 3 },
    { name := "at", readableNames := [("en", "at")], kind := .date, distinct := 3 }]

/-- Three meetings whose moments are written out, one of them on the first of March in UTC, and one without a moment. -/
def meetings : Engine where
  tableName := "events"
  dataset := ⟨"events", ⟨["id", "at"], [["a", "2021-03-10T09:00:00+01:00"], ["b", "2021-03-01T23:00:00+00:00"],
    ["c", "2021-03-02T00:30:00-02:00"], ["d", ""]], by decide⟩⟩

/-- The schema of the meetings, without main values. -/
def meetingSchema : Schema where
  name := "events"
  fields := [
    { name := "id", readableNames := [("en", "id")], kind := .text, distinct := 4 },
    { name := "at", readableNames := [("en", "at")], kind := .date, distinct := 4 }]

/-- A selection keeps all three events after noon of the first of March. The engine keeps the one that it reads and that
    is not on this day. Of the meetings it keeps what the selection keeps, but for the one on this day. -/
theorem dates_differ_within_days_events :
    let filters : List Filter := [⟨"at", .date .after, "2021-03-01T12:00:00+01:00"⟩]
    let s : Session Unit Bool := ⟨(), none, []⟩
    (∃ answer selected : Sheet, (s.ask events.backend (events.builder eventSchema filters) .all).1 = .ok answer
      ∧ Selection.run { filters := filters } events.dataset = .ok selected
      ∧ selected.rows = events.dataset.sheet.rows
      ∧ (answer.rows.filter fun cells => Stamp.IsSettled (cells.getD 1 ""))
        = [["b", "2021-03-10T09:00:00.5+01:00"]])
    ∧ ∃ answer : Sheet, (s.ask meetings.backend (meetings.builder meetingSchema filters) .all).1 = .ok answer
      ∧ answer.rows = [["a", "2021-03-10T09:00:00+01:00"], ["c", "2021-03-02T00:30:00-02:00"]] := by
  constructor
  · obtain ⟨answer, selected, asked, ran, _, rows, _, _⟩ := dates_differ_within_days events { maxDistinct := 2 }
      (Lexicon.ofColumns ["id", "at"] ["en"]) eventSchema "at" "2021-03-01T12:00:00+01:00" .after
      ⟨⟨2021, 3, 1⟩, 12, 0, 0, 0, 60⟩ ⟨(), none, []⟩ rfl (by decide) (by decide +kernel) (by decide) (by decide +kernel)
      (by decide +kernel)
    have all : selected.rows = events.dataset.sheet.rows := by
      have known := congrArg (Except.map (·.rows)) ran
      exact Except.ok.inj (known.symm.trans (by decide +kernel))
    refine ⟨answer, selected, asked, ran, all, ?_⟩
    rw [all] at rows
    exact rows.trans (by decide +kernel)
  · obtain ⟨answer, selected, asked, ran, _, _, _, rows⟩ := dates_differ_within_days meetings { maxDistinct := 2 }
      (Lexicon.ofColumns ["id", "at"] ["en"]) meetingSchema "at" "2021-03-01T12:00:00+01:00" .after
      ⟨⟨2021, 3, 1⟩, 12, 0, 0, 0, 60⟩ ⟨(), none, []⟩ rfl (by decide) (by decide +kernel) (by decide) (by decide +kernel)
      (by decide +kernel)
    have kept : selected.rows = meetings.dataset.sheet.rows.take 3 := by
      have known := congrArg (Except.map (·.rows)) ran
      exact Except.ok.inj (known.symm.trans (by decide +kernel))
    refine ⟨answer, asked, ?_⟩
    rw [rows (by decide +kernel) (by decide +kernel), kept]
    decide +kernel

/-- An event on another day than the filter's value, which a selection keeps, is left out by the engine: it reads no
    offset without a colon. -/
theorem offset_without_colon_left_out :
    let filters : List Filter := [⟨"at", .date .after, "2021-03-01T12:00:00+01:00"⟩]
    let s : Session Unit Bool := ⟨(), none, []⟩
    events.connect = .ok true
      ∧ Schema.infer { maxDistinct := 2 } (Lexicon.ofColumns ["id", "at"] ["en"]) events.dataset = .ok eventSchema
      ∧ eventSchema.kindOf? "at" = some .date
      ∧ (s.ask events.backend (events.builder eventSchema filters) .all).1.map (·.rows)
        = .ok [["b", "2021-03-10T09:00:00.5+01:00"]]
      ∧ (Selection.run { filters := filters } events.dataset).map (·.rows) = .ok events.dataset.sheet.rows
      ∧ DateNotation.isoOffset.read? "2021-03-01T12:00:00+01:00" = some ⟨⟨2021, 3, 1⟩, 12, 0, 0, 0, 60⟩
      ∧ Stamp.OnOtherDay ⟨⟨2021, 3, 1⟩, 12, 0, 0, 0, 60⟩ "2021-03-10T09:00+0100" := by
  decide +kernel

end Engine

end Sql

end Datasheet
