import Datasheet.Proofs.Number.Notation
import Datasheet.Proofs.Sql.Comparing
import Datasheet.Proofs.Sql.Extremes
import Datasheet.Proofs.Sql.Hosting
import Datasheet.Proofs.Sql.Offering

/-! # Cells that the guard admits

The guard of a field looks for the signs that numbers are written with, and a selection reads the number. A cell that can
be read is admitted unless there is another blank than a space around the number. A cell that is admitted can be read as
long as its signs are in the order of the notation and the number is not too large. Of any other cell that is admitted
the engine takes the number that the text begins with, so that filters answer it and aggregates count it.
-/

namespace Datasheet

open Text

/-! ## Spaces -/

theorem dropWhile_congr {p q : Char → Bool} {cs : List Char} (same : ∀ c ∈ cs, p c = q c) :
    cs.dropWhile p = cs.dropWhile q := by
  induction cs with
  | nil => rfl
  | cons c cs ih =>
      obtain ⟨first, rest⟩ := List.forall_mem_cons.1 same
      rw [List.dropWhile_cons, List.dropWhile_cons, first, ih rest]

namespace Sql

theorem mem_withoutSpaces_or {cs : List Char} {c : Char} (member : c ∈ cs) : c ∈ withoutSpaces cs ∨ c = ' ' := by
  by_cases space : c = ' '
  · exact .inr space
  · have other : (c == ' ') = false := by simpa using space
    refine .inl (List.mem_reverse.2 (mem_dropWhile_of_not other (List.mem_reverse.2 ?_)))
    exact mem_dropWhile_of_not other member

theorem withoutSpaces_eq_trim {cs : List Char} (spaces : ∀ c ∈ cs, isBlank c = true → c = ' ') :
    withoutSpaces cs = trim cs := by
  have alike {part : List Char} (inside : part ⊆ cs) : ∀ c ∈ part, (c == ' ') = isBlank c := by
    intro c member
    rw [Bool.eq_iff_iff, beq_iff_eq]
    exact ⟨fun same => same ▸ rfl, spaces c (inside member)⟩
  have start : cs.dropWhile (· == ' ') = trimStart cs := dropWhile_congr (alike (List.Subset.refl _))
  have inside : (trimStart cs).reverse ⊆ cs :=
    fun c member => (List.dropWhile_sublist _).subset (List.mem_reverse.1 member)
  rw [withoutSpaces, start, dropWhile_congr (alike inside), trim, trimEnd_eq_rdropWhile]
  rfl

/-! ## Looking and reading -/

theorem isNumberSign_iff {c : Char} : isNumberSign c = true ↔ ¬Decimal.IsForeign c := by
  simp only [isNumberSign, Decimal.IsForeign, Bool.or_eq_true, beq_iff_eq, List.mem_cons, List.not_mem_nil, not_and_or,
    Bool.not_eq_false]
  tauto

theorem isBlank_of_isNumberSign {c : Char} (sign : isNumberSign c = true) : isBlank c = false := by
  simp only [isNumberSign, Bool.or_eq_true, beq_iff_eq] at sign
  rcases sign with ((((digit | rfl) | rfl) | rfl) | rfl) | rfl
  · have range : 48 ≤ c.toNat ∧ c.toNat ≤ 57 := by simpa [Char.isDigit, UInt32.le_iff_toNat_le] using digit
    simp only [isBlank, Bool.or_eq_false_iff, Bool.and_eq_false_iff, decide_eq_false_iff_not, beq_eq_false_iff_ne]
    omega
  all_goals decide

theorem seenChar_of_isNumberSign (c : Char) : isNumberSign (seenChar c) = isNumberSign c
    ∧ (seenChar c).isDigit = c.isDigit := by
  rw [seenChar]
  split
  next odd =>
      have replaced : isNumberSign (Char.ofNat 0xFFFD) = false ∧ (Char.ofNat 0xFFFD).isDigit = false := by decide
      rcases odd with code | code
      · obtain rfl : c = Char.ofNat 0xFFFE := char_ext code
        exact ⟨by decide, by decide⟩
      · obtain rfl : c = Char.ofNat 0xFFFF := char_ext code
        exact ⟨by decide, by decide⟩
  next => exact ⟨rfl, rfl⟩

theorem withoutSpaces_subset (cs : List Char) : withoutSpaces cs ⊆ cs := by
  intro c member
  have inside := (List.dropWhile_sublist _).subset (List.mem_reverse.1 member)
  exact (List.dropWhile_sublist _).subset (List.mem_reverse.1 inside)

variable {cell : String}

/-- A text without NUL looks numeric if there is a digit and nothing but signs of numbers between the spaces. -/
theorem looksNumeric_iff (clean : NulFree cell) : LooksNumeric cell
    ↔ (∃ c ∈ withoutSpaces cell.toList, c.isDigit = true) ∧ ∀ c ∈ withoutSpaces cell.toList, isNumberSign c = true := by
  have seen : seenTrimmed cell = (withoutSpaces cell.toList).map seenChar := by
    rw [seenTrimmed, seenText, String.toList_ofList,
      takeWhile_nulFree fun c member => clean c (withoutSpaces_subset _ member)]
  rw [LooksNumeric, seen, List.forall_mem_map]
  simp only [List.mem_map, exists_exists_and_eq_and, (seenChar_of_isNumberSign _).1, (seenChar_of_isNumberSign _).2]

theorem LooksNumeric.spaces (looks : LooksNumeric cell) (clean : NulFree cell) :
    ∀ c ∈ cell.toList, isBlank c = true → c = ' ' := by
  intro c member blank
  refine (mem_withoutSpaces_or member).resolve_left fun inside => ?_
  rw [isBlank_of_isNumberSign (((looksNumeric_iff clean).1 looks).2 c inside)] at blank
  cases blank

theorem isSome_readNumber?_iff : (readNumber? cell).isSome = true
    ↔ ∃ d, Decimal.Denotes (trim cell.toList) d ∧ d.toBinary64?.isSome = true := by
  simp only [readNumber?, Option.isSome_bind, ← Decimal.ofText?_eq_some_iff]
  cases Decimal.ofText? (trim cell.toList) <;> simp

/-- A number is taken for one unless another blank than a space is beside it. -/
theorem looksNumeric_of_read (clean : NulFree cell) (read : (readNumber? cell).isSome = true) :
    LooksNumeric cell ↔ ∀ c ∈ cell.toList, isBlank c = true → c = ' ' := by
  refine ⟨fun looks => looks.spaces clean, fun spaces => ?_⟩
  obtain ⟨d, denotes, _⟩ := isSome_readNumber?_iff.1 read
  rw [looksNumeric_iff clean, withoutSpaces_eq_trim spaces]
  exact ⟨denotes.exists_digit, fun c member => isNumberSign_iff.2 (denotes.not_isForeign member)⟩

/-- What is taken for a number is one if it is written as one between the spaces, and not too large. -/
theorem read_of_looksNumeric (clean : NulFree cell) (looks : LooksNumeric cell) : (readNumber? cell).isSome = true
    ↔ ∃ d, Decimal.Denotes (withoutSpaces cell.toList) d ∧ d.toBinary64?.isSome = true := by
  rw [isSome_readNumber?_iff, withoutSpaces_eq_trim (looks.spaces clean)]

/-- The guard takes the cell for a number, and it cannot be read as one. -/
def IsMisread (cell : String) : Prop := LooksNumeric cell ∧ (readNumber? cell).isSome = false

/-- The cell can be read as a number, and the guard does not take it for one. -/
def IsMissed (cell : String) : Prop := ¬LooksNumeric cell ∧ (readNumber? cell).isSome = true

instance (cell : String) : Decidable (IsMisread cell) :=
  inferInstanceAs (Decidable (LooksNumeric cell ∧ (readNumber? cell).isSome = false))

instance (cell : String) : Decidable (IsMissed cell) :=
  inferInstanceAs (Decidable (¬LooksNumeric cell ∧ (readNumber? cell).isSome = true))

/-- What is taken for numbers and what is missed are together the numbers and what is misread. -/
theorem countP_looksNumeric (cells : List String) :
    cells.countP (LooksNumeric ·) + cells.countP (IsMissed ·)
      = cells.countP (fun cell => (readNumber? cell).isSome) + cells.countP (IsMisread ·) := by
  induction cells with
  | nil => rfl
  | cons cell cells ih =>
      simp only [List.countP_cons, IsMissed, IsMisread] at ih ⊢
      by_cases looks : LooksNumeric cell <;> by_cases read : (readNumber? cell).isSome = true <;>
        simp only [looks, read, decide_true, decide_false, true_and, false_and, not_true_eq_false, not_false_eq_true,
          Bool.true_eq_false, Bool.false_eq_true, if_true, if_false] <;> omega

/-! ## Testing a row -/

theorem Check.allHold_eq_true_iff {t : Table} {row : Row} {checks : List Check} :
    allHold t row checks = .ok true ↔ ∀ check ∈ checks, check.holds t row = .ok true := by
  induction checks with
  | nil => simp [allHold]
  | cons check checks ih =>
      rw [List.forall_mem_cons, ← ih, allHold]
      cases check.holds t row with
      | error fault => simp [bind, Except.bind]
      | ok verdict => cases verdict <;> simp [bind, Except.bind]

theorem QueryBuilder.isNumeric_iff {b : QueryBuilder} {field : String}
    (untyped : Dictionary.get? field b.kinds ≠ some .number) : b.IsNumeric field cell ↔ LooksNumeric cell := by
  have filled (looks : LooksNumeric cell) : cell ≠ "" := by
    rintro rfl
    exact absurd looks (by decide)
  simp only [IsNumeric, untyped, false_or]
  exact ⟨And.right, fun looks => ⟨filled looks, looks⟩⟩

/-- The numbers that cell and value begin with compare as the operator asks. -/
def ComparesNumerals (op : NumericOperator) (cell value : String) : Prop :=
  (QueryBuilder.numericComparison op).holds (.ofNumeral cell) (.ofNumeral (trimmed value)) = true

instance (op : NumericOperator) (cell value : String) : Decidable (ComparesNumerals op cell value) :=
  inferInstanceAs (Decidable ((QueryBuilder.numericComparison op).holds (.ofNumeral cell) (.ofNumeral (trimmed value)) = true))

namespace Engine

variable {e : Engine} {b : QueryBuilder} {field value : String} {op : NumericOperator}

theorem Checked.holds_numeric (checked : e.Checked) (column : e.IsPlainColumn field) (row : Row)
    (comparison : Comparison) (value : String) :
    (Test.compare (.decimal (QueryBuilder.column field)) comparison (.decimal (.text value))).holds e.table row
      = .ok (comparison.holds (.ofNumeral (e.cell field row)) (.ofNumeral value)) := by
  have left : (Scalar.decimal (QueryBuilder.column field)).value e.table row = .ofNumeral (e.cell field row) :=
    congrFun (checked.value_decimal column) row
  have right : (Scalar.decimal (.text value)).value e.table row = .ofNumeral value := rfl
  have beside (text : String) : (Value.ofNumeral text).besideNumber = .ofNumeral text := by
    have number := Value.isNumber_ofNumeral text
    cases read : Value.ofNumeral text with
    | null | text =>
        rw [read] at number
        exact number.elim
    | integer | real => rfl
  simp only [Test.holds, left, right, Scalar.isNumeric, if_true, beside]

/-- A numeric filter on a field that is not known to hold numbers lets pass the rows whose cell looks numeric and begins
    with a number that compares as the filter asks. -/
theorem Checked.allHold_untyped (checked : e.Checked) (column : e.IsPlainColumn field) (row : Row)
    (untyped : Dictionary.get? field b.kinds ≠ some .number) :
    Check.allHold e.table row ((b.tests ⟨field, .numeric op, value⟩).map .test)
      = .ok (decide (LooksNumeric (e.cell field row) ∧ ComparesNumerals op (e.cell field row) value)) := by
  have compared := checked.holds_numeric column row (QueryBuilder.numericComparison op) (trimmed value)
  rw [QueryBuilder.tests, List.map_append, Check.allHold_append, checked.allHold_guard column row]
  simp only [Except.bind, decide_eq_true_eq, QueryBuilder.isNumeric_iff untyped, List.map_cons, List.map_nil,
    Check.allHold_singleton compared]
  by_cases looks : LooksNumeric (e.cell field row) <;> simp [looks, ComparesNumerals]

theorem Checked.cell_of_passing (checked : e.Checked) (column : e.IsPlainColumn field)
    (untyped : Dictionary.get? field b.kinds ≠ some .number) (filter : ⟨field, .numeric op, value⟩ ∈ b.filters) {row : Row}
    (passed : row ∈ e.passing (b.filters.flatMap b.tests)) :
    LooksNumeric (e.cell field row) ∧ ComparesNumerals op (e.cell field row) value := by
  have all : Check.allHold e.table row ((b.filters.flatMap b.tests).map .test) = .ok true := by
    simpa using (List.mem_filter.1 passed).2
  have own : Check.allHold e.table row ((b.tests ⟨field, .numeric op, value⟩).map .test) = .ok true := by
    rw [Check.allHold_eq_true_iff] at all ⊢
    intro check member
    obtain ⟨test, inside, rfl⟩ := List.mem_map.1 member
    exact all _ (List.mem_map.2 ⟨test, List.mem_flatMap.2 ⟨_, filter, inside⟩, rfl⟩)
  rw [checked.allHold_untyped column row untyped] at own
  exact of_decide_eq_true (Except.ok.inj own)

theorem length_numericRows (column : field ∈ e.dataset.sheet.header)
    (untyped : Dictionary.get? field b.kinds ≠ some .number) {all : Sheet}
    (shown : all = e.sheetOfRows (e.passing (b.filters.flatMap b.tests)) fun _ => mem_rows_of_passing) :
    (b.numericRows field all).length = (all.cellsOf field).countP (LooksNumeric ·) := by
  rw [(numericRows_eq shown).1, List.length_map, numericKept, ← List.countP_eq_length_filter, shown,
    cellsOf_sheetOfRows _ column, List.countP_map]
  refine List.countP_congr fun row _ => ?_
  rw [Function.comp_apply, decide_eq_true_eq, decide_eq_true_eq, QueryBuilder.isNumeric_iff untyped]

theorem nulFree_literalOf_numeric (read : (readNumber? value).isSome = true) :
    NulFree (QueryBuilder.literalOf ⟨field, .numeric op, value⟩) := by
  obtain ⟨d, denotes, _⟩ := isSome_readNumber?_iff.1 read
  intro c member zero
  have inside : c ∈ trim value.toList := by rwa [QueryBuilder.literalOf, trimmed, String.toList_ofList] at member
  obtain rfl : c = Char.ofNat 0 := char_ext zero
  exact denotes.not_isForeign inside (by decide)

/-! ## Answers -/

/-- The rows under one numeric filter are those whose cell passes its tests. -/
theorem reply_untyped (connected : e.connect = .ok true) (plain : e.HasPlainColumns) (based : b.IsOver e)
    (untyped : Dictionary.get? field b.kinds ≠ some .number) (alone : b.filters = [⟨field, .numeric op, value⟩])
    (correct : b.checkFilter ⟨field, .numeric op, value⟩ = .ok ()) :
    ∃ answer : Sheet, e.reply b .all = .ok answer ∧ answer.header = e.dataset.sheet.header
      ∧ answer.rows = e.dataset.sheet.rows.filter fun cells =>
        LooksNumeric (e.dataset.sheet.cellUnder field cells)
          ∧ ComparesNumerals op (e.dataset.sheet.cellUnder field cells) value := by
  obtain ⟨known, read⟩ := ((QueryBuilder.checkFilter_eq_ok_iff based.hasFields).1 correct).1
  have column := plain.isPlainColumn (based.fields known)
  exact @reply_of_told e b ⟨field, .numeric op, value⟩ connected based.table alone column correct
    (nulFree_literalOf_numeric read) (fun cell => LooksNumeric cell ∧ ComparesNumerals op cell value) inferInstance
    fun row _ => (checked_of_connect connected).allHold_untyped column row untyped

theorem aggregate_count (connected : e.connect = .ok true) (plain : e.HasPlainColumns) (based : b.IsOver e)
    (untyped : Dictionary.get? field b.kinds ≠ some .number) (numeric : b.checkNumeric field = .ok ())
    (s : Session Unit Bool) {all : Sheet} (ran : e.reply b .all = .ok all) {word : String}
    (named : Aggregate.read? word = some .count) : (s.aggregate e.backend b field word).1
      = if b.isShallow (.aggregate field word) then .ok (some ((all.cellsOf field).countP (LooksNumeric ·)).repr)
        else .error (.execution (.refused .tooDeep)) := by
  split
  next shallow =>
      obtain ⟨_, _, _, shown⟩ := shown_of_all connected plain based ran
      rw [(aggregate_of_shown connected plain based numeric s ran named shallow).1 rfl,
        length_numericRows (based.mem_of_checkNumeric numeric) untyped shown]
  next deep => exact aggregate_of_deep connected plain based numeric s ran named deep

/-- A field that is not known to hold numbers is guarded by the signs of its cells. The guard is true of a cell without
    NUL exactly if there are a digit and nothing but signs of numbers between the spaces at its ends. A cell that can be
    read as a number is admitted exactly if no other blank than a space is beside the number, and a cell that is
    admitted can be read exactly if its signs write a number that is not too large. Numeric filters answer rows with
    admitted cells only, by the number that each cell begins with, and one such filter answers all of them. The count of
    the field is off from the number of cells that can be read by what is misread and what is missed. -/
theorem guard_admits_by_signs (e : Engine) (b : QueryBuilder) (field : String) (s : Session Unit Bool)
    (connected : e.connect = .ok true) (plain : e.HasPlainColumns) (based : b.IsOver e) (known : field ∈ b.fields)
    (untyped : Dictionary.get? field b.kinds ≠ some .number) :
    let builder (filters : List Filter) : QueryBuilder := { b with filters := filters }
    let asked (filters : List Filter) := (s.ask e.backend (builder filters) .all).1
    (∀ row ∈ e.table.rows, Check.allHold e.table row ((b.guard field).map .test)
        = .ok (decide (LooksNumeric (e.cell field row))))
      ∧ (∀ cell, NulFree cell →
        (LooksNumeric cell ↔ (∃ c ∈ withoutSpaces cell.toList, c.isDigit = true)
            ∧ ∀ c ∈ withoutSpaces cell.toList, isNumberSign c = true)
          ∧ ((readNumber? cell).isSome = true →
            (LooksNumeric cell ↔ ∀ c ∈ cell.toList, isBlank c = true → c = ' '))
          ∧ (LooksNumeric cell → ((readNumber? cell).isSome = true
            ↔ ∃ d, Decimal.Denotes (withoutSpaces cell.toList) d ∧ d.toBinary64?.isSome = true)))
      ∧ (∀ op value,
        (∀ filters all, ⟨field, .numeric op, value⟩ ∈ filters → asked filters = .ok all →
          ∀ cell ∈ all.cellsOf field, LooksNumeric cell ∧ ComparesNumerals op cell value)
        ∧ (b.checkFilter ⟨field, .numeric op, value⟩ = .ok () →
          ∃ answer, asked [⟨field, .numeric op, value⟩] = .ok answer
            ∧ answer.rows = e.dataset.sheet.rows.filter fun cells =>
              LooksNumeric (e.dataset.sheet.cellUnder field cells)
                ∧ ComparesNumerals op (e.dataset.sheet.cellUnder field cells) value))
      ∧ ∀ filters all word, asked filters = .ok all → Aggregate.read? word = some .count →
        b.checkNumeric field = .ok () → ∃ count,
          (s.aggregate e.backend (builder filters) field word).1
              = (if (builder filters).isShallow (.aggregate field word) then .ok (some count.repr)
                else .error (.execution (.refused .tooDeep)))
            ∧ count + (all.cellsOf field).countP (IsMissed ·)
              = (all.cellsOf field).countP (fun cell => (readNumber? cell).isSome) + (all.cellsOf field).countP (IsMisread ·) := by
  intro builder asked
  have checked := checked_of_connect connected
  have column := plain.isPlainColumn (based.fields known)
  have still (filters : List Filter) : (builder filters).IsOver e := ⟨based.table, based.hasFields, based.fields⟩
  have asks (filters : List Filter) : asked filters = e.reply (builder filters) .all := ask_backend connected s _ _
  refine ⟨fun row _ => ?_, fun cell clean => ?_, fun op value => ⟨fun filters all filter ran => ?_, fun correct => ?_⟩,
    fun filters all word ran named numeric => ?_⟩
  · rw [checked.allHold_guard column row]
    simp only [QueryBuilder.isNumeric_iff untyped]
  · exact ⟨looksNumeric_iff clean, looksNumeric_of_read clean, read_of_looksNumeric clean⟩
  · obtain ⟨_, _, _, rfl⟩ := shown_of_all connected plain (still filters) (asks filters ▸ ran)
    rw [cellsOf_sheetOfRows _ column.1, List.forall_mem_map]
    exact fun row passed => @Checked.cell_of_passing e (builder filters) field value op checked column untyped filter row passed
  · obtain ⟨answer, replied, _, rows⟩ := @reply_untyped e (builder [⟨field, .numeric op, value⟩]) field value op connected plain
      (still _) untyped rfl correct
    exact ⟨answer, (asks _).trans replied, rows⟩
  · exact ⟨_, @aggregate_count e (builder filters) field connected plain (still filters) untyped numeric s all
      (asks filters ▸ ran) word named, countP_looksNumeric _⟩

/-- Parts with a date, a range and a tab among their codes. -/
def parts : Engine where
  tableName := "parts"
  dataset := ⟨"parts", ⟨["code"], [["7"], ["2020-01-01"], ["1-2"], ["\t8"], ["n/a"]], by decide⟩⟩

/-- Three of the codes are counted, although two can be read as numbers: the date and the range are misread, and the
    code with the tab is missed. -/
theorem guard_admits_by_signs_parts :
    let s : Session Unit Bool := ⟨(), none, []⟩
    let b : QueryBuilder := { table := "parts", fields := ["code"] }
    (∃ count : Nat, (s.aggregate parts.backend b "code" "count").1 = .ok (some count.repr) ∧ count + 1 = 2 + 2)
      ∧ ∃ answer : Sheet,
        (s.ask parts.backend { b with filters := [⟨"code", .numeric .greater, "1"⟩] } .all).1 = .ok answer
          ∧ answer.rows = [["7"], ["2020-01-01"]] := by
  have shown : ((⟨(), none, []⟩ : Session Unit Bool).ask parts.backend
      { table := "parts", fields := ["code"], filters := [] } .all).1 = .ok parts.dataset.sheet := by rfl
  have cells : (parts.dataset.sheet.cellsOf "code").countP (IsMissed ·) = 1
      ∧ (parts.dataset.sheet.cellsOf "code").countP (fun cell => (readNumber? cell).isSome) = 2
      ∧ (parts.dataset.sheet.cellsOf "code").countP (IsMisread ·) = 2 := by decide +kernel
  intro s b
  obtain ⟨_, _, filtered, counted⟩ := guard_admits_by_signs parts b "code" s rfl (by decide) ⟨rfl, by decide, by decide⟩
    (by decide) (by decide)
  obtain ⟨answer, asked, rows⟩ := (filtered .greater "1").2 (by decide +kernel)
  obtain ⟨count, told, off⟩ := counted [] parts.dataset.sheet "count" shown (by decide) (by decide)
  rw [cells.1, cells.2.1, cells.2.2] at off
  exact ⟨⟨count, told, off⟩, answer, asked, rows.trans (by decide +kernel)⟩

/-- A date is no number, and yet a filter for numbers answers it. A number after a tab is one, and is left out. -/
theorem date_taken_for_number :
    let s : Session Unit Bool := ⟨(), none, []⟩
    let b : QueryBuilder := { table := "parts", fields := ["code"] }
    readNumber? "2020-01-01" = none ∧ (readNumber? "\t8").isSome = true
      ∧ Check.allHold parts.table ⟨2, ["2020-01-01"]⟩ ((b.guard "code").map .test) = .ok true
      ∧ Check.allHold parts.table ⟨4, ["\t8"]⟩ ((b.guard "code").map .test) = .ok false
      ∧ (s.ask parts.backend { b with filters := [⟨"code", .numeric .greater, "1"⟩] } .all).1.map (·.rows)
        = .ok [["7"], ["2020-01-01"]]
      ∧ (s.aggregate parts.backend b "code" "count").1 = .ok (some "3")
      ∧ (parts.dataset.sheet.cellsOf "code").countP (fun cell => (readNumber? cell).isSome) = 2 := by
  intro s b
  have based (filters : List Filter) : QueryBuilder.IsOver { b with filters := filters } parts :=
    ⟨rfl, List.cons_ne_nil _ _, List.Subset.refl _⟩
  have filtered : (s.ask parts.backend { b with filters := [⟨"code", .numeric .greater, "1"⟩] } .all).1.map (·.rows)
      = .ok [["7"], ["2020-01-01"]] := by
    obtain ⟨answer, replied, _, rows⟩ := reply_untyped rfl (by decide) (based [⟨"code", .numeric .greater, "1"⟩]) (by decide)
      rfl (by decide +kernel)
    rw [ask_backend rfl, replied]
    exact congrArg Except.ok (rows.trans (by decide +kernel))
  have counted : (s.aggregate parts.backend b "code" "count").1 = .ok (some "3") := by
    rw [aggregate_count rfl (by decide) (based []) (by decide) (by decide) s (reply_all_unfiltered rfl rfl rfl) (by decide),
      if_pos (by decide)]
    exact congrArg (Except.ok ∘ some) (by decide +kernel)
  exact ⟨by decide +kernel, by decide +kernel, by decide +kernel, by decide +kernel, filtered, counted, by decide +kernel⟩

end Engine

end Sql

end Datasheet
