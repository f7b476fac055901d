import Datasheet.Proofs.Filter.Admission
import Datasheet.Proofs.Number.Whole
import Datasheet.Proofs.Sql.Answering
import Datasheet.Proofs.Sql.Patterns

/-! # What the tests of a filter let pass

On texts of ASCII characters and on whole numbers that are not too long, the engine's comparisons and patterns
come to what the filter admits: capitals there and small letters here tell the same apart, and so do the numbers
of the engine and those of the binary64 format.
-/

namespace Datasheet.Sql

open Text

/-! ## Comparing -/

theorem numericComparison_holds {op : NumericOperator} {m n : Int} {x y : Binary64}
    (left : x.value = m * Binary64.one) (right : y.value = n * Binary64.one) :
    (QueryBuilder.numericComparison op).holds (.integer m) (.integer n) = true ↔ op.Relates x y := by
  have positive : (0 : Int) < Binary64.one := Int.natCast_pos.2 Binary64.one_pos
  have equal : x.value = y.value ↔ m = n := by
    rw [left, right]
    exact Int.mul_eq_mul_right_iff positive.ne'
  have less : x.value < y.value ↔ m < n := by
    rw [left, right]
    exact Int.mul_lt_mul_right positive
  have greater : y.value < x.value ↔ n < m := by
    rw [left, right]
    exact Int.mul_lt_mul_right positive
  cases op with
  | equal =>
      change (compare m n == .eq) = true ↔ x.value = y.value
      rw [beq_iff_eq, compare_eq_iff_eq, equal]
  | notEqual =>
      change (compare m n != .eq) = true ↔ x.value ≠ y.value
      rw [bne_iff_ne, Ne, compare_eq_iff_eq, Ne, equal]
  | less =>
      change (compare m n == .lt) = true ↔ x.value < y.value
      rw [beq_iff_eq, compare_lt_iff_lt, less]
  | lessOrEqual =>
      change (compare m n != .gt) = true ↔ x.value ≤ y.value
      rw [bne_iff_ne, Ne, compare_gt_iff_gt, ← not_lt, greater]
  | greater =>
      change (compare m n == .gt) = true ↔ y.value < x.value
      rw [beq_iff_eq, compare_gt_iff_gt, greater]
  | greaterOrEqual =>
      change (compare m n != .lt) = true ↔ y.value ≤ x.value
      rw [bne_iff_ne, Ne, compare_lt_iff_lt, ← not_lt, less]

/-! ## Testing a row -/

namespace Engine

variable {e : Engine} {b : QueryBuilder} {field : String}

/-- A text in capitals. -/
def raised (s : String) : String := String.ofList (s.toList.map upperAscii)

theorem toList_raised (s : String) : (raised s).toList = s.toList.map upperAscii := String.toList_ofList

theorem raised_eq_iff {a b : String} : raised a = raised b ↔ a.toList.map lowerAscii = b.toList.map lowerAscii := by
  rw [← map_upperAscii_eq_iff, ← toList_raised, ← toList_raised, String.toList_inj]

theorem matched_raised (s : String) : (raised s).toList.map matched = s.toList.map matched := by
  rw [toList_raised, List.map_map]
  exact List.map_congr_left fun c _ => matched_upperAscii c

theorem map_matched_of_ascii {s : String} (ascii : IsAscii s) : s.toList.map matched = s.toList.map lowerAscii :=
  List.map_congr_left fun c member => matched_of_ascii (ascii c member).2

theorem nulFree_of_ascii {s : String} (ascii : IsAscii s) : NulFree s := fun c member => (ascii c member).1.ne'

theorem nulFree_raised {s : String} (clean : NulFree s) : NulFree (raised s) := by
  intro c member
  rw [toList_raised] at member
  obtain ⟨d, inside, rfl⟩ := List.mem_map.1 member
  have known := clean d inside
  rw [toNat_upperAscii]
  split <;> omega

theorem matchPattern_text {matcher : String → String → Bool} {pattern : String}
    (short : pattern.utf8ByteSize ≤ patternLimit) (subject : String) :
    matchPattern matcher (.text pattern) (.text subject) = .ok (some (matcher pattern subject)) := by
  change (if patternLimit < pattern.utf8ByteSize then _ else _) = _
  rw [if_neg (Nat.not_lt.2 short)]
  rfl

/-- A pattern in capitals is matched with a text in capitals, as long as the pattern is not too long. -/
theorem matchPattern_raised {pattern subject : String} (short : pattern.utf8ByteSize ≤ patternLimit) :
    matchPattern likeHolds (.text (raised pattern)) (.text (raised subject))
      = .ok (some (likeHolds (raised pattern) (raised subject))) := by
  have size : (raised pattern).utf8ByteSize = pattern.utf8ByteSize := utf8ByteSize_map_upperAscii pattern
  exact matchPattern_text (size ▸ short) (raised subject)

theorem likeHolds_raised {pattern subject : String} (clean : NulFree pattern) (clean' : NulFree subject)
    {parts : Pattern} (read : Pattern.ofLike? (pattern.toList.map matched) = some parts) :
    likeHolds (raised pattern) (raised subject) = parts.holds (subject.toList.map matched) := by
  have read' : Pattern.ofLike? ((raised pattern).toList.map matched) = some parts := by rw [matched_raised, read]
  rw [likeHolds_eq (nulFree_raised clean) (nulFree_raised clean') read', matched_raised]

theorem relates_folded {cell value : String} (ascii : IsAscii cell) (ascii' : IsAscii value) (op : TextOperator) :
    op.Relates (CellTest.folded true cell.toList) (CellTest.folded true value.toList)
      ↔ op.Relates (cell.toList.map lowerAscii) (value.toList.map lowerAscii) := by
  have small {s : String} (ascii : IsAscii s) : CellTest.folded true s.toList = s.toList.map lowerAscii :=
    lowercase_of_ascii fun c member => (ascii c member).2
  rw [small ascii, small ascii']

/-- The filter makes a pattern of its value. -/
def hasPattern (f : Filter) : Bool :=
  match f.operator with
  | .text .contains | .text .startsWith | .text .endsWith => true
  | _ => false

/-- The pattern of a filter is not too long for the engine. -/
def IsShort (f : Filter) : Prop :=
  hasPattern f = true → (QueryBuilder.literalOf f).utf8ByteSize ≤ patternLimit

instance (f : Filter) : Decidable (IsShort f) :=
  inferInstanceAs (Decidable (hasPattern f = true → (QueryBuilder.literalOf f).utf8ByteSize ≤ patternLimit))

theorem exists_pattern {op : TextOperator} (part : op.AsksForPart) (field value : String) :
    ∃ parts, Pattern.ofLike? ((QueryBuilder.literalOf ⟨field, .text op, value⟩).toList.map matched) = some parts
      ∧ ∀ text, parts.holds text = true ↔ op.Relates text (value.toList.map matched) := by
  rcases part with rfl | rfl | rfl
  · exact ⟨_, ofLike?_contains value, Pattern.holds_contains _⟩
  · exact ⟨_, ofLike?_startsWith value, Pattern.holds_startsWith _⟩
  · exact ⟨_, ofLike?_endsWith value, Pattern.holds_endsWith _⟩

theorem textTest_of_part {op : TextOperator} (part : op.AsksForPart) (b : QueryBuilder) (field value : String) :
    b.textTest field value op = .like (b.folded (QueryBuilder.column field))
      (b.folded (.text (QueryBuilder.literalOf ⟨field, .text op, value⟩))) := by
  rcases part with rfl | rfl | rfl <;> rfl

theorem IsShort.literal {op : TextOperator} {value : String} (short : IsShort ⟨field, .text op, value⟩)
    (part : op.AsksForPart) : (QueryBuilder.literalOf ⟨field, .text op, value⟩).utf8ByteSize ≤ patternLimit := by
  apply short
  rcases part with rfl | rfl | rfl <;> rfl

theorem Checked.value_folded (checked : e.Checked) (ignoreCase : b.ignoreCase = true)
    (column : e.IsPlainColumn field) (row : Row) (value : String) :
    (b.folded (QueryBuilder.column field)).value e.table row = .text (raised (e.cell field row))
      ∧ (b.folded (.text value)).value e.table row = .text (raised value) := by
  rw [QueryBuilder.folded, if_pos ignoreCase, QueryBuilder.folded, if_pos ignoreCase]
  constructor
  · rw [QueryBuilder.column, Scalar.value, Operand.value, checked.value_ofText column]
    rfl
  · rfl

theorem Checked.holds_compare_folded (checked : e.Checked) (ignoreCase : b.ignoreCase = true)
    (column : e.IsPlainColumn field) (row : Row) (comparison : Comparison) (value : String) :
    (Test.compare (b.folded (QueryBuilder.column field)) comparison (b.folded (.text value))).holds e.table row
      = .ok (comparison.holds (.text (raised (e.cell field row))) (.text (raised value))) := by
  obtain ⟨left, right⟩ := checked.value_folded ignoreCase column row value
  have plain (x : Operand) : (b.folded x).isNumeric e.table = false := by
    rw [QueryBuilder.folded, if_pos ignoreCase]
    rfl
  simp only [Test.holds, left, right, plain, Bool.false_eq_true, if_false]

theorem Checked.holds_like (checked : e.Checked) (b : QueryBuilder) (column : e.IsPlainColumn field) {row : Row}
    (cell : NulFree (e.cell field row)) {pattern : String} (clean : NulFree pattern)
    (short : pattern.utf8ByteSize ≤ patternLimit) {parts : Pattern}
    (read : Pattern.ofLike? (pattern.toList.map matched) = some parts) :
    (Test.like (b.folded (QueryBuilder.column field)) (b.folded (.text pattern))).holds e.table row
      = .ok (parts.holds ((e.cell field row).toList.map matched)) := by
  have told : matchPattern likeHolds ((b.folded (.text pattern)).value e.table row)
      ((b.folded (QueryBuilder.column field)).value e.table row)
        = .ok (some (parts.holds ((e.cell field row).toList.map matched))) := by
    cases ignoreCase : b.ignoreCase with
    | true =>
        obtain ⟨subject, wanted⟩ := checked.value_folded ignoreCase column row pattern
        rw [subject, wanted, matchPattern_raised short, likeHolds_raised clean cell read]
    | false =>
        have plain (x : Operand) : b.folded x = .plain x := by
          rw [QueryBuilder.folded, ignoreCase]
          rfl
        have subject : (Scalar.plain (QueryBuilder.column field)).value e.table row = .text (e.cell field row) :=
          checked.value_ofText column row
        have wanted : (Scalar.plain (.text pattern)).value e.table row = .text pattern := rfl
        rw [plain, plain, subject, wanted, matchPattern_text short, likeHolds_eq clean cell read]
  rw [Test.holds, told]
  cases parts.holds ((e.cell field row).toList.map matched) <;> rfl

theorem Checked.holds_part (checked : e.Checked) (b : QueryBuilder) (column : e.IsPlainColumn field) {row : Row}
    (cell : NulFree (e.cell field row)) {value : String} (clean : NulFree value) {op : TextOperator}
    (part : op.AsksForPart) (short : IsShort ⟨field, .text op, value⟩) :
    (b.textTest field value op).holds e.table row
      = .ok (decide (op.Relates ((e.cell field row).toList.map matched) (value.toList.map matched))) := by
  have literal : NulFree (QueryBuilder.literalOf ⟨field, .text op, value⟩) := QueryBuilder.nulFree_literalOf clean
  obtain ⟨parts, read, found⟩ := exists_pattern part field value
  rw [textTest_of_part part, checked.holds_like b column cell literal (short.literal part) read]
  exact congrArg Except.ok (Bool.eq_iff_iff.2 ((found _).trans decide_eq_true_iff.symm))

/-- The test of a text operator is what the operator relates. -/
theorem Checked.holds_textTest (checked : e.Checked) (ignoreCase : b.ignoreCase = true)
    (column : e.IsPlainColumn field) {row : Row} {value : String} (ascii : IsAscii (e.cell field row))
    (ascii' : IsAscii value) {op : TextOperator} (short : IsShort ⟨field, .text op, value⟩) :
    (b.textTest field value op).holds e.table row
      = .ok (decide (op.Relates (CellTest.folded true (e.cell field row).toList) (CellTest.folded true value.toList))) := by
  have verdict {test : Test} {holds : Bool} (made : test.holds e.table row = .ok holds)
      (iff : holds = true ↔ op.Relates ((e.cell field row).toList.map lowerAscii) (value.toList.map lowerAscii)) :
      test.holds e.table row = .ok (decide (op.Relates (CellTest.folded true (e.cell field row).toList)
        (CellTest.folded true value.toList))) := by
    rw [made, ← Bool.decide_coe holds]
    simp only [iff, relates_folded ascii ascii']
  -- Capitals on both sides tell the same apart as small letters, and so does a pattern, which ignores case itself.
  cases op with
  | equals =>
      refine verdict (checked.holds_compare_folded ignoreCase column row .equal value) ?_
      rw [(Comparison.holds_text _ _).1, decide_eq_true_eq, raised_eq_iff]
      rfl
  | different =>
      refine verdict (checked.holds_compare_folded ignoreCase column row .notEqual value) ?_
      rw [(Comparison.holds_text _ _).2, decide_eq_true_eq, Ne, raised_eq_iff]
      rfl
  | contains | startsWith | endsWith =>
      have told := checked.holds_part b column (nulFree_of_ascii ascii) (nulFree_of_ascii ascii') (by decide) short
      rw [map_matched_of_ascii ascii, map_matched_of_ascii ascii'] at told
      exact verdict told decide_eq_true_iff

/-- The test of a numeric operator, on a field of numbers, is what the operator relates. An empty cell is none of
    the numbers. -/
theorem Checked.allHold_numeric (checked : e.Checked) {op : NumericOperator} {value : String}
    (column : e.IsPlainColumn field) (number : Dictionary.get? field b.kinds = some .number) {row : Row}
    (whole : e.cell field row ≠ "" → (wholeNumber? (e.cell field row).toList).isSome)
    (whole' : (wholeNumber? value.toList).isSome) :
    Check.allHold e.table row ((b.tests ⟨field, .numeric op, value⟩).map .test)
      = .ok (decide ((Operator.numeric op).Admits true value (e.cell field row))) := by
  have guarded : b.tests ⟨field, .numeric op, value⟩ = [QueryBuilder.filled field,
      .compare (.decimal (QueryBuilder.column field)) (QueryBuilder.numericComparison op)
        (.decimal (.text (trimmed value)))] := by
    rw [QueryBuilder.tests, QueryBuilder.guard, if_pos number]
    rfl
  rw [guarded, checked.allHold_filled column]
  -- The engine would take an empty cell for zero, so the first test has to keep it away from the second one.
  by_cases empty : e.cell field row = ""
  · have unread : readNumber? "" = none := by decide
    have nothing : ¬(Operator.numeric op).Admits true value "" := by simp [Operator.Admits, unread]
    rw [empty, if_neg (by simp), decide_eq_false nothing]
  · obtain ⟨m, cell⟩ := Option.isSome_iff_exists.1 (whole empty)
    obtain ⟨n, target⟩ := Option.isSome_iff_exists.1 whole'
    obtain ⟨x, readCell, valueCell⟩ := readNumber?_of_wholeNumber? cell
    obtain ⟨y, readTarget, valueTarget⟩ := readNumber?_of_wholeNumber? target
    have same : trimmed value = value := by rw [trimmed, trim_of_wholeNumber? target, String.ofList_toList]
    have left : (Scalar.decimal (QueryBuilder.column field)).value e.table row = .integer m := by
      rw [QueryBuilder.column, Scalar.value, Operand.value, checked.value_ofText column]
      exact ofNumeral_of_wholeNumber? cell
    have right : (Scalar.decimal (.text value)).value e.table row = .integer n := ofNumeral_of_wholeNumber? target
    have relates : (Operator.numeric op).Admits true value (e.cell field row) ↔ op.Relates x y := by
      simp [Operator.Admits, readCell, readTarget]
    have compared : (QueryBuilder.numericComparison op).holds (.integer m) (.integer n)
        = decide ((Operator.numeric op).Admits true value (e.cell field row)) := by
      rw [Bool.eq_iff_iff, decide_eq_true_eq, relates]
      exact numericComparison_holds valueCell valueTarget
    rw [if_pos empty, same]
    refine Check.allHold_singleton ?_
    simp only [Test.holds, left, right, Scalar.isNumeric, if_true, Value.besideNumber, compared]

/-! ## Filters -/

/-- Engines and selections understand the filter alike. It compares ASCII texts under a field of texts, or whole
    numbers of at most fifteen digits under a field of numbers. -/
def Compares (e : Engine) (schema : Schema) (f : Filter) : Prop :=
  match f.operator with
  | .text _ =>
      schema.kindOf? f.field = some .text ∧ IsAscii f.value
        ∧ ∀ cell ∈ e.dataset.sheet.cellsOf f.field, IsAscii cell
  | .numeric _ =>
      schema.kindOf? f.field = some .number ∧ (wholeNumber? f.value.toList).isSome
        ∧ ∀ cell ∈ e.dataset.sheet.cellsOf f.field, cell ≠ "" → (wholeNumber? cell.toList).isSome
  | .date _ => False

instance (e : Engine) (schema : Schema) : (f : Filter) → Decidable (e.Compares schema f)
  | ⟨field, .text _, value⟩ => inferInstanceAs (Decidable (schema.kindOf? field = some .text ∧ IsAscii value
      ∧ ∀ cell ∈ e.dataset.sheet.cellsOf field, IsAscii cell))
  | ⟨field, .numeric _, value⟩ =>
      inferInstanceAs (Decidable (schema.kindOf? field = some .number ∧ (wholeNumber? value.toList).isSome = true
        ∧ ∀ cell ∈ e.dataset.sheet.cellsOf field, cell ≠ "" → (wholeNumber? cell.toList).isSome = true))
  | ⟨_, .date _, _⟩ => inferInstanceAs (Decidable False)

theorem cell_mem_cellsOf {row : Row} (member : row ∈ e.table.rows) (column : field ∈ e.dataset.sheet.header) :
    e.cell field row ∈ e.dataset.sheet.cellsOf field := by
  rw [← e.sheetOfRows_rows, cellsOf_sheetOfRows _ column]
  exact List.mem_map.2 ⟨row, member, rfl⟩

/-- The tests of a filter let pass the rows whose cell the filter admits. -/
theorem Checked.allHold_tests (checked : e.Checked) {schema : Schema} {f : Filter} (ignoreCase : b.ignoreCase = true)
    (kinds : Dictionary.get? f.field b.kinds = schema.kindOf? f.field) (compares : e.Compares schema f)
    (short : IsShort f) (column : e.IsPlainColumn f.field) {row : Row} (member : row ∈ e.table.rows) :
    Check.allHold e.table row ((b.tests f).map .test) = .ok (decide (f.Admits true (e.cell f.field row))) := by
  obtain ⟨field, operator, value⟩ := f
  have listed := cell_mem_cellsOf member column.1
  cases operator with
  | text op =>
      obtain ⟨_, ascii', ascii⟩ := compares
      exact Check.allHold_singleton (checked.holds_textTest ignoreCase column (ascii _ listed) ascii' short)
  | numeric op =>
      obtain ⟨number, whole', whole⟩ := compares
      exact checked.allHold_numeric column (kinds.trans number) (whole _ listed) whole'
  | date op => exact compares.elim

/-- The tests of filters let pass the rows that all filters admit. -/
theorem Checked.allHold_filters (checked : e.Checked) {schema : Schema} {filters : List Filter}
    (ignoreCase : b.ignoreCase = true) (kinds : ∀ field, Dictionary.get? field b.kinds = schema.kindOf? field)
    (compares : ∀ f ∈ filters, e.Compares schema f) (short : ∀ f ∈ filters, IsShort f)
    (columns : ∀ f ∈ filters, e.IsPlainColumn f.field) {row : Row} (member : row ∈ e.table.rows) :
    Check.allHold e.table row ((filters.flatMap b.tests).map .test)
      = .ok (decide (∀ f ∈ filters, f.Admits true (e.cell f.field row))) := by
  induction filters with
  | nil => simp [Check.allHold]
  | cons f filters ih =>
      obtain ⟨first, compares⟩ := List.forall_mem_cons.1 compares
      obtain ⟨firstShort, short⟩ := List.forall_mem_cons.1 short
      obtain ⟨firstColumn, columns⟩ := List.forall_mem_cons.1 columns
      rw [List.flatMap_cons, List.map_append, Check.allHold_append,
        checked.allHold_tests ignoreCase (kinds f.field) first firstShort firstColumn member,
        ih compares short columns]
      by_cases admits : f.Admits true (e.cell f.field row)
      · simp [Except.bind, admits]
      · simp [Except.bind, admits]

end Engine

end Datasheet.Sql
