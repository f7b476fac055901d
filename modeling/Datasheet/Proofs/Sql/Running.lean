import Datasheet.Proofs.Sql.Agreement
import Datasheet.Proofs.Sql.Extremes
import Datasheet.Proofs.Sql.Summing

/-! # Queries over a schema that run

Whatever a builder with the fields of a dataset makes, its engine runs, as long as the engine's limits are kept: every
row can be tested, and every answer is a sheet. The one exception is a sum of whole numbers that does not fit in 64 bits.
-/

namespace Datasheet

/-- An aggregate of numbers has no answer exactly if it is a sum that overflows. -/
theorem Aggregate.answer?_eq_none_iff {function : Aggregate} {values : List Sql.Value}
    (numbers : ∀ v ∈ values, v.IsNumber) : function.answer? values = none ↔ function = .sum ∧ Sql.Value.Overflow values := by
  simp only [answer?, filter_ne_null numbers]
  cases function with
  | sum => simp [Sql.Summation.sum?_eq_none_iff numbers]
  | avg | max | min | count => simp

theorem Schema.keyNames_subset (s : Schema) : s.keyNames ⊆ s.fieldNames := by
  intro name member
  obtain ⟨f, inside, rfl⟩ := List.mem_map.1 member
  exact List.mem_map.2 ⟨f, List.mem_of_mem_filter inside, rfl⟩

namespace Sql

/-! ## Tests that can be told -/

theorem exists_matchPattern {matcher : String → String → Bool} {pattern : Value} (subject : Value)
    (short : ∀ p, pattern.text? = some p → p.utf8ByteSize ≤ patternLimit) :
    ∃ holds, matchPattern matcher pattern subject = .ok holds := by
  rw [matchPattern]
  split
  next p s there _ => exact ⟨_, if_neg (Nat.not_lt.2 (short p there))⟩
  next => exact ⟨none, rfl⟩

/-- The test holds or does not hold of every row of the table. -/
def Test.IsTold (t : Table) (test : Test) : Prop := ∀ row, ∃ verdict, test.holds t row = .ok verdict

theorem Test.isTold_compare (t : Table) (left : Scalar) (comparison : Comparison) (right : Scalar) :
    (compare left comparison right).IsTold t := fun _ => ⟨_, rfl⟩

theorem Test.isTold_glob {t : Table} (subject : Scalar) (negated : Bool) {pattern : String}
    (short : pattern.utf8ByteSize ≤ patternLimit) : (glob subject negated pattern).IsTold t := by
  intro row
  obtain ⟨holds, made⟩ := @exists_matchPattern globHolds (.text pattern) (subject.value t row)
    fun p same => Option.some.inj same ▸ short
  exact ⟨_, by rw [Test.holds, made]; rfl⟩

namespace QueryBuilder

variable {b : QueryBuilder} {t : Table}

theorem isTold_guard (b : QueryBuilder) (t : Table) (field : String) : ∀ test ∈ b.guard field, test.IsTold t := by
  have filled : (QueryBuilder.filled field).IsTold t := Test.isTold_compare t _ _ _
  rw [guard]
  split
  · simpa using filled
  · have digit := @Test.isTold_glob t (.trimmed (column field)) false "*[0-9]*" (by decide)
    have foreign := @Test.isTold_glob t (.trimmed (column field)) true "*[^0-9.eE+-]*" (by decide)
    simpa using ⟨filled, digit, foreign⟩

theorem isTold_like {field pattern : String} (short : pattern.utf8ByteSize ≤ patternLimit) :
    (Test.like (b.folded (column field)) (b.folded (.text pattern))).IsTold t := by
  intro row
  have size : ∀ p, ((b.folded (.text pattern)).value t row).text? = some p → p.utf8ByteSize ≤ patternLimit := by
    intro p there
    rw [folded] at there
    split at there
    · obtain rfl : String.ofList (pattern.toList.map Text.upperAscii) = p := Option.some.inj there
      rwa [Text.utf8ByteSize_map_upperAscii]
    · obtain rfl : pattern = p := Option.some.inj there
      exact short
  obtain ⟨holds, made⟩ := @exists_matchPattern likeHolds _ ((b.folded (column field)).value t row) size
  exact ⟨_, by rw [Test.holds, made]; rfl⟩

theorem isTold_tests {f : Filter} (short : Engine.IsShort f) : ∀ test ∈ b.tests f, test.IsTold t := by
  obtain ⟨field, operator, value⟩ := f
  rw [tests_eq]
  refine List.forall_mem_append.2 ⟨?_, List.forall_mem_singleton.2 ?_⟩
  · cases operator with
    | numeric op => exact b.isTold_guard t field
    | text op | date op => exact List.forall_mem_nil _
  · cases operator with
    | numeric op | date op => exact Test.isTold_compare t _ _ _
    | text op =>
        cases op with
        | equals | different => exact Test.isTold_compare t _ _ _
        | contains | startsWith | endsWith => exact isTold_like (short rfl)

theorem Outlines.isTold {request : Request} {o : Outline} (outlines : b.Outlines request o) :
    (∀ test ∈ o.tests, test.IsTold t) ∧ ∀ extreme ∈ o.extreme, extreme.1.isExtreme = true := by
  have filled (field : String) : ∀ test ∈ [QueryBuilder.filled field], test.IsTold t :=
    List.forall_mem_singleton.2 (Test.isTold_compare t _ _ _)
  cases outlines with
  | all | window | page | rowCount | columns | distinct => exact ⟨List.forall_mem_nil _, by simp⟩
  | frequency | withFrequency => exact ⟨filled _, by simp⟩
  | aggregate => exact ⟨b.isTold_guard t _, by simp⟩
  | extremeRows _ extreme => exact ⟨b.isTold_guard t _, by simpa using extreme⟩

end QueryBuilder

/-! ## Scans -/

/-- The check comes to a verdict on every row of the table. -/
def Check.IsTold (t : Table) (check : Check) : Prop := ∀ row, ∃ verdict, check.holds t row = .ok verdict

theorem Check.exists_allHold {t : Table} {checks : List Check} (told : ∀ check ∈ checks, check.IsTold t) (row : Row) :
    ∃ verdict, allHold t row checks = .ok verdict := by
  induction checks with
  | nil => exact ⟨true, rfl⟩
  | cons check checks ih =>
      obtain ⟨first, told⟩ := List.forall_mem_cons.1 told
      obtain ⟨verdict, made⟩ := first row
      rw [allHold, made]
      cases verdict with
      | false => exact ⟨false, rfl⟩
      | true => exact ih told

theorem Check.exists_scan {t : Table} {checks : List Check} (told : ∀ check ∈ checks, check.IsTold t) :
    ∃ kept, scan t checks none t.rows = .ok kept :=
  ⟨_, scan_eq_ok.2 ⟨fun row _ => exists_allHold told row, rfl⟩⟩

theorem Extreme.exists_answer {t : Table} {e : Extreme} (extreme : e.function.isExtreme = true)
    (told : ∀ test ∈ e.tests, test.IsTold t) : ∃ v, e.answer t = .ok v := by
  have told' : ∀ check ∈ e.tests.map Check.test, check.IsTold t := List.forall_mem_map.2 told
  obtain ⟨kept, scanned⟩ := Check.exists_scan told'
  rw [Extreme.answer, scanned]
  change ∃ v, aggregateOver e.function e.value t kept = .ok v
  cases function : e.function with
  | max | min => exact ⟨_, rfl⟩
  | avg | sum | count => simp [function, Aggregate.isExtreme] at extreme

/-- The conditions of a query that a builder makes come to a verdict on every row. -/
theorem Outline.isTold_conditions {o : Outline} {table : Name} {filters : List Test} {t : Table}
    (own : ∀ test ∈ o.tests, test.IsTold t) (extreme : ∀ e ∈ o.extreme, e.1.isExtreme = true)
    (others : ∀ test ∈ filters, test.IsTold t) :
    ∀ check ∈ (o.query table filters).conditions.map (Condition.check t), check.IsTold t := by
  refine List.forall_mem_map.2 ?_
  obtain ⟨answer, tests, wanted⟩ := o
  have all : ∀ test ∈ tests ++ filters, test.IsTold t := List.forall_mem_append.2 ⟨own, others⟩
  cases wanted with
  | none =>
      refine List.forall_mem_map.2 all
  | some wanted =>
      obtain ⟨function, value⟩ := wanted
      refine List.forall_mem_append.2 ⟨List.forall_mem_map.2 own, List.forall_mem_cons.2 ⟨?_, List.forall_mem_map.2 others⟩⟩
      obtain ⟨v, made⟩ := @Extreme.exists_answer t ⟨function, value, table, tests ++ filters⟩ (extreme _ rfl) all
      exact fun row => ⟨_, by rw [Condition.check, made, Check.holds]; rfl⟩

theorem Answer.exists_sheet (a : Answer) (t : Table) (kept : List Row)
    (valued : ∀ function value label, a = .aggregate function value label → ∃ v, aggregateOver function value t kept = .ok v) :
    ∃ sheet, a.sheet t kept = .ok sheet := by
  cases a with
  | rows names window => exact ⟨_, Sheet.ofRows_eq_ok (by simp)⟩
  | distinct n => exact ⟨_, Sheet.ofRows_eq_ok (by simp)⟩
  | rowCount =>
      exact ⟨_, (Sheet.ofRows_eq_ok (by simp) : Sheet.ofRows ["num_rows"] [[kept.length.repr]] = _)⟩
  | aggregate function value label =>
      obtain ⟨v, made⟩ := valued function value label rfl
      simp only [Answer.sheet, made]
      exact ⟨_, Sheet.ofRows_eq_ok (by simp)⟩
  | frequencies n pick =>
      refine ⟨_, Sheet.ofRows_eq_ok fun row member => ?_⟩
      obtain ⟨cells, inside, rfl⟩ := List.mem_map.1 member
      obtain ⟨⟨v, count⟩, _, rfl⟩ := List.mem_map.1 inside
      rfl

/-! ## Whole queries -/

namespace Engine

variable {e : Engine} {b : QueryBuilder} {request : Request}

theorem isTold_filters (short : ∀ f ∈ b.filters, IsShort f) (t : Table) :
    ∀ test ∈ b.filters.flatMap b.tests, test.IsTold t := by
  intro test member
  obtain ⟨f, filter, inside⟩ := List.mem_flatMap.1 member
  exact QueryBuilder.isTold_tests (short f filter) test inside

/-- Every query is run if the engine reads its names and it keeps the limits, unless it asks for an aggregate. -/
theorem exists_answerOf {q : Query} (made : b.query request = .ok q) (short : ∀ f ∈ b.filters, IsShort f)
    (few : q.answer.names.length ≤ columnLimit) (shallow : q.isShallow = true)
    (noAggregate : ∀ function value label, q.answer ≠ .aggregate function value label) :
    ∃ sheet, e.answerOf q = .ok sheet := by
  obtain ⟨o, outlined, _, rfl⟩ := QueryBuilder.query_eq_ok.1 made
  obtain ⟨own, extreme⟩ := (QueryBuilder.outline_eq_ok.1 outlined).isTold (t := e.table)
  obtain ⟨kept, scanned⟩ := Check.exists_scan (Outline.isTold_conditions own extreme (isTold_filters short e.table))
  rw [answerOf, if_neg (Nat.not_lt.2 few), if_pos shallow, scanned]
  exact Answer.exists_sheet _ _ _ fun function value label same => absurd same (noAggregate function value label)

/-- The numbers of a field in the rows that all filters let pass. -/
def numbers (e : Engine) (b : QueryBuilder) (field : String) : List Value :=
  (e.numericKept b field).map fun row => .ofNumeral (e.cell field row)

/-- The request asks for a sum that overflows. -/
def Overflows (e : Engine) (b : QueryBuilder) : Request → Prop
  | .aggregate field word => Aggregate.read? word = some .sum ∧ Value.Overflow (e.numbers b field)
  | _ => False

instance (e : Engine) (b : QueryBuilder) : (request : Request) → Decidable (e.Overflows b request)
  | .aggregate field word =>
      inferInstanceAs (Decidable (Aggregate.read? word = some .sum ∧ Value.Overflow (e.numbers b field)))
  | .all | .window _ _ | .page _ | .columns _ | .distinct _ | .rowCount | .extremeRows _ _ | .frequency _ _
  | .withFrequency _ _ => inferInstanceAs (Decidable False)

theorem testable_filters (e : Engine) (short : ∀ f ∈ b.filters, IsShort f) : e.Testable (b.filters.flatMap b.tests) :=
  fun row _ => Check.exists_allHold (List.forall_mem_map.2 (isTold_filters short e.table)) row

theorem reply_aggregate_or_overflow (connected : e.connect = .ok true) (plain : e.HasPlainColumns) (based : b.IsOver e)
    (clean : ∀ f ∈ b.filters, NulFree (QueryBuilder.literalOf f)) (short : ∀ f ∈ b.filters, IsShort f) {q : Query}
    {field word : String} (made : b.query (.aggregate field word) = .ok q) (shallow : q.isShallow = true) :
    (e.Overflows b (.aggregate field word) →
      e.reply b (.aggregate field word) = .error (.execution (.refused .integerOverflow)))
    ∧ (¬ e.Overflows b (.aggregate field word) → ∃ sheet, e.reply b (.aggregate field word) = .ok sheet) := by
  obtain ⟨o, outlined, correct, _⟩ := QueryBuilder.query_eq_ok.1 made
  obtain ⟨function, named, numeric⟩ : ∃ function, Aggregate.read? word = some function ∧ b.checkNumeric field = .ok () := by
    cases QueryBuilder.outline_eq_ok.1 outlined with
    | aggregate named numeric => exact ⟨_, named, numeric⟩
  have checked := checked_of_connect connected
  have column := plain.isPlainColumn (based.mem_of_checkNumeric numeric)
  have shallow : b.isShallow (.aggregate field word) = true := by rw [QueryBuilder.isShallow, made]; exact shallow
  have values : (e.numericKept b field).map ((QueryBuilder.decimal field).value e.table) = e.numbers b field := by
    rw [checked.value_decimal column]
    rfl
  have overflows : function.answer? (e.numbers b field) = none ↔ e.Overflows b (.aggregate field word) := by
    have isNumber : ∀ v ∈ e.numbers b field, v.IsNumber := isNumber_map _
    rw [Aggregate.answer?_eq_none_iff isNumber, Overflows, named, Option.some_inj]
  rw [reply_aggregate connected plain based numeric correct clean (e.testable_filters short) named, if_pos shallow]
  constructor
  · intro overflow
    simp only [Answer.sheet, aggregateOver, values, overflows.2 overflow]
  · intro fits
    obtain ⟨v, summed⟩ := Option.ne_none_iff_exists'.1 (mt overflows.1 fits)
    refine Answer.exists_sheet _ _ _ fun function' value label same => ?_
    obtain ⟨rfl, rfl, _⟩ := Answer.aggregate.inj same
    exact ⟨v, by simp only [aggregateOver, values, summed]⟩

theorem named_subset (based : b.IsOver e) (keys : b.keyFields ⊆ e.dataset.sheet.header) {q : Query}
    (made : b.query request = .ok q) : b.namedFields request ⊆ e.dataset.sheet.header := by
  intro name named
  have known : name ∈ b.checkedFields request ∨ name ∈ b.keyFields := by
    cases request with
    | extremeRows field word => simpa [QueryBuilder.checkedFields, QueryBuilder.namedFields] using named
    | all | window | page | rowCount | columns | distinct | aggregate | frequency | withFrequency => exact .inl named
  rcases known with checked | key
  · exact based.fields (based.mem_of_checkField (QueryBuilder.checkField_of_made made (List.mem_append_left _ checked)))
  · exact keys key

/-- What a builder over an engine makes of a request, the engine runs within its limits, unless a sum overflows. -/
theorem reply_or_overflow (connected : e.connect = .ok true) (plain : e.HasPlainColumns) (based : b.IsOver e)
    (keys : b.keyFields ⊆ e.dataset.sheet.header) (clean : ∀ f ∈ b.filters, NulFree f.value)
    (short : ∀ f ∈ b.filters, IsShort f) {q : Query} (made : b.query request = .ok q) (whole : q.answer.needed = none)
    (few : q.answer.names.length ≤ columnLimit) (shallow : q.isShallow = true) :
    (e.Overflows b request → e.reply b request = .error (.execution (.refused .integerOverflow)))
    ∧ (¬ e.Overflows b request → ∃ sheet, e.reply b request = .ok sheet) := by
  obtain ⟨o, outlined, correct, same⟩ := QueryBuilder.query_eq_ok.1 made
  have literals : ∀ f ∈ b.filters, NulFree (QueryBuilder.literalOf f) :=
    fun f filter => QueryBuilder.nulFree_literalOf (clean f filter)
  have run (noAggregate : ∀ function value label, q.answer ≠ .aggregate function value label) :
      ∃ sheet, e.reply b request = .ok sheet := by
    rw [reply_eq_answerOf (checked_of_connect connected) based.table made
      (fun name named => plain.isPlainColumn (named_subset based keys made named))
      (based.isPlainColumn_filters plain correct) literals whole]
    exact exists_answerOf made short few shallow noAggregate
  have answer : q.answer = o.answer := by rw [same, Outline.answer_query]
  cases QueryBuilder.outline_eq_ok.1 outlined with
  | aggregate => exact reply_aggregate_or_overflow connected plain based literals short made shallow
  | all | window | page | rowCount | columns | distinct | frequency | withFrequency | extremeRows =>
      exact ⟨False.elim, fun _ => run (by simp [answer])⟩

/-- A query that is made over an inferred schema runs within the engine's limits, whatever the filters and cells are. The
    one exception is the sum of whole numbers that do not fit in 64 bits together: the engine has no answer for it. -/
theorem runs_unless_sum_overflows (e : Engine) (settings : SchemaSettings) (lexicon : Lexicon) (schema : Schema)
    (config : QuerySettings) (filters : List Filter) (request : Request) (q : Query) (s : Session Unit Bool)
    (connected : e.connect = .ok true) (plain : e.HasPlainColumns)
    (inferred : Schema.infer settings lexicon e.dataset = .ok schema) (clean : ∀ f ∈ filters, NulFree f.value)
    (short : ∀ f ∈ filters, IsShort f) (made : ((e.builder schema filters).configure config).query request = .ok q)
    (whole : q.answer.needed = none) (few : q.answer.names.length ≤ columnLimit) (shallow : q.isShallow = true) :
    let b := (e.builder schema filters).configure config
    (e.Overflows b request → (s.ask e.backend b request).1 = .error (.execution (.refused .integerOverflow)))
    ∧ (¬ e.Overflows b request → ∃ sheet, (s.ask e.backend b request).1 = .ok sheet) := by
  intro b
  obtain ⟨table, hasFields, fields⟩ := @isOver_builder e settings lexicon schema filters (checked_of_connect connected) inferred
  have based : b.IsOver e := ⟨table, hasFields, fields⟩
  have keys : b.keyFields ⊆ e.dataset.sheet.header := by
    rw [← (Schema.infer_fieldNames inferred).1]
    exact schema.keyNames_subset
  rw [ask_backend connected]
  exact reply_or_overflow connected plain based keys clean short made whole few shallow

/-- The salaries of the employees have a sum. -/
theorem runs_unless_sum_overflows_employees :
    let filters : List Filter := [⟨"dept", .text .contains, "s"⟩]
    let s : Session Unit Bool := ⟨(), none, []⟩
    ∃ sheet, (s.ask employees.backend ((employees.builder employeeSchema filters).configure {})
      (.aggregate "salary" "sum")).1 = .ok sheet := by
  intro filters s
  obtain ⟨_, ran⟩ := runs_unless_sum_overflows employees { maxDistinct := 2 }
    (Lexicon.ofColumns ["name", "dept", "salary"] ["en"]) employeeSchema {} filters (.aggregate "salary" "sum") _ s rfl
    (by decide) (by decide +kernel) (by decide) (by decide) rfl rfl (by decide) (by decide)
  exact ran (by decide +kernel)

/-- Two identifiers, the first of them as large as 64 bits allow. -/
def identifiers : Engine where
  tableName := "ids"
  dataset := ⟨"ids", ⟨["id"], [["9223372036854775807"], ["1"]], by decide⟩⟩

def identifierSchema : Schema where
  name := "ids"
  fields := [{ name := "id", readableNames := [("en", "id")], kind := .number, distinct := 2 }]

/-- The sum of the identifiers is asked for and refused, though their average is answered. -/
theorem identifiers_refused :
    let b := identifiers.builder identifierSchema []
    let s : Session Unit Bool := ⟨(), none, []⟩
    Schema.infer {} (Lexicon.ofColumns ["id"] ["en"]) identifiers.dataset = .ok identifierSchema
      ∧ (b.query (.aggregate "id" "sum")).isOk = true
      ∧ (s.ask identifiers.backend b (.aggregate "id" "sum")).1 = .error (.execution (.refused .integerOverflow))
      ∧ (s.ask identifiers.backend b (.aggregate "id" "avg")).1.isOk = true := by
  intro b s
  have connected : identifiers.connect = .ok true := rfl
  have plain : identifiers.HasPlainColumns := by decide
  have based : b.IsOver identifiers := ⟨rfl, by decide, by decide⟩
  have keys : b.keyFields ⊆ identifiers.dataset.sheet.header := by decide
  have sum : b.query (.aggregate "id" "sum") = .ok _ := rfl
  have avg : b.query (.aggregate "id" "avg") = .ok _ := rfl
  obtain ⟨refused, _⟩ := reply_or_overflow connected plain based keys (by decide) (by decide) sum rfl (by decide) (by decide)
  obtain ⟨_, replied⟩ := reply_or_overflow connected plain based keys (by decide) (by decide) avg rfl (by decide) (by decide)
  obtain ⟨sheet, replied⟩ := replied (by decide +kernel)
  refine ⟨by decide +kernel, rfl, ?_, ?_⟩
  · rw [ask_backend connected, refused (by decide +kernel)]
  · rw [ask_backend connected, replied]
    rfl

end Engine

end Sql

end Datasheet
