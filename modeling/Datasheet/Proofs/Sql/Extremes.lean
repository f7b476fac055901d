import Datasheet.Proofs.Sql.Conversation
import Datasheet.Proofs.Sql.Guarding
import Datasheet.Proofs.Sql.Ranking

/-! # Aggregates and the rows of an extreme

The number of numbers in a field, the greatest and the least of them, and the rows that hold the greatest or the least
are all told of the same rows: those that the filters let pass and whose cell counts as a number. The query for the
rows of an extreme repeats the guard and the filters inside of its condition, so the number that it compares with is the
one that the aggregate answers.
-/

namespace Datasheet

/-- The cell of a row under a field. -/
def Sheet.cellUnder (s : Sheet) (field : String) (cells : List String) : String :=
  cells.getD (s.header.idxOf field) ""

end Datasheet

namespace Datasheet.Sql

/-- The number in the cell of a row under a field. -/
def numberUnder (s : Sheet) (field : String) (cells : List String) : Value := .ofNumeral (s.cellUnder field cells)

theorem isNumber_numberUnder (s : Sheet) (field : String) (cells : List String) : (numberUnder s field cells).IsNumber :=
  Value.isNumber_ofNumeral _

/-- The rows of a sheet whose cell under a field counts as a number. -/
def QueryBuilder.numericRows (b : QueryBuilder) (field : String) (s : Sheet) : List (List String) :=
  s.rows.filter fun cells => b.IsNumeric field (s.cellUnder field cells)

/-- A row cut down to the key fields in their order; the whole row if there are none. -/
def QueryBuilder.keyed (b : QueryBuilder) (s : Sheet) (cells : List String) : List String :=
  if b.keyFields = [] then cells else b.keyFields.map fun key => s.cellUnder key cells

/-- The request has a query whose conditions are not nested too deeply. -/
def QueryBuilder.isShallow (b : QueryBuilder) (request : Request) : Bool :=
  match b.query request with
  | .ok q => q.isShallow
  | .error _ => false

namespace Engine

variable {e : Engine} {b : QueryBuilder} {field word : String} {function : Aggregate} {wanted : Ordering} {request : Request}

/-! ## The rows that both queries are about -/

variable (e b field) in
/-- The rows of the table that pass the filters and whose cell counts as a number. -/
def numericKept : List Row :=
  (e.passing (b.filters.flatMap b.tests)).filter fun row => b.IsNumeric field (e.cell field row)

theorem mem_rows_of_numericKept (p : Row → Prop) [DecidablePred p] :
    ∀ row ∈ (e.numericKept b field).filter p, row ∈ e.table.rows :=
  fun _ member => mem_rows_of_passing (List.mem_of_mem_filter (List.mem_of_mem_filter member))

theorem Checked.value_decimal (checked : e.Checked) (column : e.IsPlainColumn field) :
    (QueryBuilder.decimal field).value e.table = fun row => .ofNumeral (e.cell field row) := by
  funext row
  rw [QueryBuilder.decimal, QueryBuilder.column, Scalar.value, Operand.value, checked.value_ofText column]
  rfl

theorem Checked.scan_guard (checked : e.Checked) (column : e.IsPlainColumn field)
    (testable : e.Testable (b.filters.flatMap b.tests)) :
    Check.scan e.table ((b.guard field ++ b.filters.flatMap b.tests).map .test) none e.table.rows
      = .ok (e.numericKept b field) := by
  rw [List.map_append]
  exact Check.scan_append (fun row _ => checked.allHold_guard column row) testable.scan

theorem isNumber_map (rows : List Row) : ∀ v ∈ rows.map fun row => Value.ofNumeral (e.cell field row), v.IsNumber := by
  simpa using fun row _ => Value.isNumber_ofNumeral (e.cell field row)

theorem aggregateOver_of_end? (checked : e.Checked) (column : e.IsPlainColumn field)
    (ends : function.end? = some wanted) (rows : List Row) :
    aggregateOver function (QueryBuilder.decimal field) e.table rows
      = .ok (Aggregate.bestOf wanted (rows.map fun row => .ofNumeral (e.cell field row))) := by
  rw [aggregateOver, checked.value_decimal column, Aggregate.answer?_of_end? ends (isNumber_map rows)]

theorem aggregateOver_count (checked : e.Checked) (column : e.IsPlainColumn field) (rows : List Row) :
    aggregateOver .count (QueryBuilder.decimal field) e.table rows = .ok (.integer rows.length) := by
  rw [aggregateOver, checked.value_decimal column, Aggregate.answer?_count (isNumber_map rows), List.length_map]

theorem holds_equal (v w : Value) : Comparison.equal.holds v w = decide (v.compare? w = some .eq) := by
  rw [Comparison.holds]
  rcases v.compare? w with _ | _ | _ | _ <;> rfl

theorem Checked.scan_extreme (checked : e.Checked) (column : e.IsPlainColumn field)
    (testable : e.Testable (b.filters.flatMap b.tests)) (best : Value) :
    Check.scan e.table ((b.guard field).map .test
        ++ .equals (QueryBuilder.decimal field) (.ok best) :: (b.filters.flatMap b.tests).map .test) none e.table.rows
      = .ok ((e.numericKept b field).filter fun row => (Value.ofNumeral (e.cell field row)).compare? best = some .eq) := by
  have told : ∀ row ∈ e.table.rows, Check.allHold e.table row
      ((b.guard field).map .test ++ [.equals (QueryBuilder.decimal field) (.ok best)])
        = .ok (decide (b.IsNumeric field (e.cell field row) ∧ (Value.ofNumeral (e.cell field row)).compare? best = some .eq)) := by
    intro row _
    have equals : Check.allHold e.table row [.equals (QueryBuilder.decimal field) (.ok best)]
        = .ok (decide ((Value.ofNumeral (e.cell field row)).compare? best = some .eq)) := by
      have verdict : (Check.equals (QueryBuilder.decimal field) (.ok best)).holds e.table row
          = .ok (Comparison.equal.holds (.ofNumeral (e.cell field row)) best) := by
        rw [Check.holds, checked.value_decimal column]
        rfl
      rw [← holds_equal, Check.allHold, verdict]
      cases Comparison.equal.holds (.ofNumeral (e.cell field row)) best <;> rfl
    rw [Check.allHold_append, checked.allHold_guard column row, equals]
    by_cases numeric : b.IsNumeric field (e.cell field row) <;> simp [Except.bind, numeric]
  have scanned := Check.scan_append told testable.scan
  rw [List.append_assoc, List.singleton_append] at scanned
  rw [scanned, numericKept, List.filter_filter]
  simp only [Bool.decide_and, Bool.and_comm]

/-! ## Replies -/

theorem reply_aggregate (connected : e.connect = .ok true) (plain : e.HasPlainColumns) (based : b.IsOver e)
    (numeric : b.checkNumeric field = .ok ()) (correct : ∀ f ∈ b.filters, b.checkFilter f = .ok ())
    (clean : ∀ f ∈ b.filters, NulFree (QueryBuilder.literalOf f))
    (testable : e.Testable (b.filters.flatMap b.tests)) (named : Aggregate.read? word = some function) :
    e.reply b (.aggregate field word)
      = if b.isShallow (.aggregate field word) then
          (Answer.aggregate function (QueryBuilder.decimal field) (function.name ++ "_" ++ wordPart field)).sheet e.table
            (e.numericKept b field)
        else .error (.execution (.refused .tooDeep)) := by
  have checked := checked_of_connect connected
  have column := plain.isPlainColumn (based.mem_of_checkNumeric numeric)
  have outlined := (QueryBuilder.Outlines.aggregate named numeric).outline
  have made := QueryBuilder.query_eq_ok.2 ⟨_, outlined, correct, rfl⟩
  have single : [field] ⊆ e.dataset.sheet.header := List.cons_subset.2 ⟨column.1, List.nil_subset _⟩
  have few : 1 ≤ columnLimit := by decide
  rw [reply_plain connected plain based outlined correct clean single few rfl rfl, plainAnswer,
    checked.scan_guard column testable, QueryBuilder.isShallow, made]
  simp only [Outline.query, Query.isShallow_tests, decide_eq_true_eq]

theorem reply_extremeRows (connected : e.connect = .ok true) (plain : e.HasPlainColumns) (based : b.IsOver e)
    (keys : b.keyFields ⊆ e.dataset.sheet.header) (numeric : b.checkNumeric field = .ok ())
    (correct : ∀ f ∈ b.filters, b.checkFilter f = .ok ())
    (clean : ∀ f ∈ b.filters, NulFree (QueryBuilder.literalOf f))
    (testable : e.Testable (b.filters.flatMap b.tests)) (named : Aggregate.read? word = some function)
    (ends : function.end? = some wanted) : e.reply b (.extremeRows field word)
      = if columnLimit < b.keyFields.length then .error (.execution (.refused .tooManyColumns))
        else if b.isShallow (.extremeRows field word) then
          (Answer.rows (b.keyFields.map Name.ofText) none).sheet e.table ((e.numericKept b field).filter fun row =>
            (Value.ofNumeral (e.cell field row)).compare? (Aggregate.bestOf wanted
              ((e.numericKept b field).map fun row => .ofNumeral (e.cell field row))) = some .eq)
        else .error (.execution (.refused .tooDeep)) := by
  have checked := checked_of_connect connected
  have column := based.mem_of_checkNumeric numeric
  have outlined := (QueryBuilder.Outlines.extremeRows named (Aggregate.isExtreme_of_end? ends) numeric).outline
  have made := QueryBuilder.query_eq_ok.2 ⟨_, outlined, correct, rfl⟩
  have columns : ∀ name ∈ field :: b.keyFields, e.IsPlainColumn name :=
    fun name member => plain.isPlainColumn (List.cons_subset.2 ⟨column, keys⟩ member)
  have extreme : Extreme.answer ⟨function, QueryBuilder.decimal field, Name.ofText b.table,
      b.guard field ++ b.filters.flatMap b.tests⟩ e.table
        = .ok (Aggregate.bestOf wanted ((e.numericKept b field).map fun row => .ofNumeral (e.cell field row))) := by
    rw [Extreme.answer, checked.scan_guard (columns field List.mem_cons_self) testable]
    exact aggregateOver_of_end? checked (columns field List.mem_cons_self) ends _
  have checks (tests : List Test) : (tests.map Condition.test).map (Condition.check e.table) = tests.map Check.test := by
    rw [List.map_map]
    rfl
  have conditions : ((b.guard field).map Condition.test ++ .isExtreme (QueryBuilder.decimal field) ⟨function,
      QueryBuilder.decimal field, Name.ofText b.table, b.guard field ++ b.filters.flatMap b.tests⟩
        :: (b.filters.flatMap b.tests).map Condition.test).map (Condition.check e.table)
      = (b.guard field).map Check.test ++ .equals (QueryBuilder.decimal field) (.ok (Aggregate.bestOf wanted
        ((e.numericKept b field).map fun row => .ofNumeral (e.cell field row)))) :: (b.filters.flatMap b.tests).map .test := by
    rw [List.map_append, List.map_cons, checks, checks, Condition.check, extreme]
  rw [reply_eq_answerOf checked based.table made columns (based.isPlainColumn_filters plain correct) clean rfl, answerOf,
    QueryBuilder.isShallow, made]
  simp only [Outline.query, Answer.names, List.length_map, conditions,
    checked.scan_extreme (columns field List.mem_cons_self) testable]
  rfl

/-! ## Sheets -/

theorem single_aggregate {value : Scalar} {label : String} {rows : List Row} {v : Value}
    (made : aggregateOver function value e.table rows = .ok v) :
    ((Answer.aggregate function value label).sheet e.table rows).map Session.single
      = .ok ((some v.toText).filter (!·.isEmpty)) := by
  have sheet : (Answer.aggregate function value label).sheet e.table rows = .ok ⟨[label], [[v.toText]], by simp⟩ := by
    simp only [Answer.sheet, made, sheetOf]
    exact Sheet.ofRows_eq_ok (by simp)
  rw [sheet]
  rfl

theorem single_of_isNumber {v : Value} (number : v.IsNumber) :
    (some v.toText).filter (!·.isEmpty) = some v.toText := by
  have solid : v.toText.isEmpty = false := by simpa using number.toText_ne
  simp [Option.filter, solid]

variable {all : Sheet}

theorem numericRows_eq (shown : all = e.sheetOfRows (e.passing (b.filters.flatMap b.tests)) fun _ => mem_rows_of_passing) :
    b.numericRows field all = (e.numericKept b field).map (·.cells)
      ∧ (b.numericRows field all).map (numberUnder all field)
        = (e.numericKept b field).map fun row => .ofNumeral (e.cell field row) := by
  have rows : b.numericRows field all = (e.numericKept b field).map (·.cells) := by
    rw [QueryBuilder.numericRows, shown, numericKept]
    exact List.filter_map
  refine ⟨rows, ?_⟩
  rw [rows, List.map_map, shown]
  rfl

theorem Checked.sheet_keyed (checked : e.Checked) (keys : ∀ key ∈ b.keyFields, e.IsPlainColumn key)
    (header : all.header = e.dataset.sheet.header) {kept : List Row} (known : ∀ row ∈ kept, row ∈ e.table.rows) :
    ∃ answer : Sheet, (Answer.rows (b.keyFields.map Name.ofText) none).sheet e.table kept = .ok answer
      ∧ answer.header = (if b.keyFields = [] then all.header else b.keyFields)
      ∧ answer.rows = (kept.map (·.cells)).map (b.keyed all) := by
  by_cases keyless : b.keyFields = []
  · refine ⟨e.sheetOfRows kept known, by rw [keyless]; exact sheet_rows known, by rw [if_pos keyless, header]; rfl, ?_⟩
    simp [QueryBuilder.keyed, keyless, sheetOfRows]
  · refine ⟨_, checked.sheet_fields keyless keys, by rw [if_neg keyless], ?_⟩
    rw [List.map_map]
    refine List.map_congr_left fun row _ => ?_
    simp [QueryBuilder.keyed, keyless, Sheet.cellUnder, header, cell]

theorem isNumber_numbers (b : QueryBuilder) (field : String) (all : Sheet) :
    ∀ v ∈ (b.numericRows field all).map (numberUnder all field), v.IsNumber := by
  intro v member
  obtain ⟨cells, _, rfl⟩ := List.mem_map.1 member
  exact isNumber_numberUnder all field cells

/-- What the aggregate of a field answers, by the rows whose cell counts as a number. -/
theorem aggregate_of_shown (connected : e.connect = .ok true) (plain : e.HasPlainColumns) (based : b.IsOver e)
    (numeric : b.checkNumeric field = .ok ()) (s : Session Unit Bool) (ran : e.reply b .all = .ok all)
    (named : Aggregate.read? word = some function) (shallow : b.isShallow (.aggregate field word) = true) :
    (function = .count → (s.aggregate e.backend b field word).1 = .ok (some (b.numericRows field all).length.repr))
      ∧ ∀ wanted, function.end? = some wanted →
        (b.numericRows field all = [] → (s.aggregate e.backend b field word).1 = .ok none)
          ∧ (b.numericRows field all ≠ [] →
            ∃ v, Value.IsFirst wanted ((b.numericRows field all).map (numberUnder all field)) v
              ∧ (s.aggregate e.backend b field word).1 = .ok (some v.toText)) := by
  have checked := checked_of_connect connected
  have column := plain.isPlainColumn (based.mem_of_checkNumeric numeric)
  obtain ⟨correct, clean, testable, shown⟩ := shown_of_all connected plain based ran
  obtain ⟨rows, numbers⟩ := @numericRows_eq e b field all shown
  rw [Session.aggregate_eq_ask, ask_backend connected,
    reply_aggregate connected plain based numeric correct clean testable named, if_pos shallow]
  constructor
  · rintro rfl
    rw [single_aggregate (aggregateOver_count checked column _), @single_of_isNumber (.integer _) trivial, rows,
      List.length_map]
    rfl
  · intro wanted ends
    rw [single_aggregate (aggregateOver_of_end? checked column ends _), ← numbers]
    constructor
    · intro rowless
      rw [rowless]
      rfl
    · intro nonempty
      have areNumbers := isNumber_numbers b field all
      have first := Aggregate.isFirst_bestOf ends areNumbers (mt List.map_eq_nil_iff.1 nonempty)
      exact ⟨_, first, by rw [single_of_isNumber (areNumbers _ first.1)]⟩

theorem aggregate_of_deep (connected : e.connect = .ok true) (plain : e.HasPlainColumns) (based : b.IsOver e)
    (numeric : b.checkNumeric field = .ok ()) (s : Session Unit Bool) (ran : e.reply b .all = .ok all)
    (named : Aggregate.read? word = some function) (deep : ¬b.isShallow (.aggregate field word)) :
    (s.aggregate e.backend b field word).1 = .error (.execution (.refused .tooDeep)) := by
  obtain ⟨correct, clean, testable, _⟩ := shown_of_all connected plain based ran
  have replied := reply_aggregate connected plain based numeric correct clean testable named
  rw [if_neg deep, ← ask_backend connected s] at replied
  rw [Session.aggregate_eq_ask, replied]
  rfl

/-- What the request for the rows of an extreme answers, by the same rows. -/
theorem extremeRows_of_shown (connected : e.connect = .ok true) (plain : e.HasPlainColumns) (based : b.IsOver e)
    (keys : b.keyFields ⊆ e.dataset.sheet.header) (numeric : b.checkNumeric field = .ok ())
    (ran : e.reply b .all = .ok all) (named : Aggregate.read? word = some function) (ends : function.end? = some wanted)
    (few : ¬columnLimit < b.keyFields.length) (shallow : b.isShallow (.extremeRows field word) = true) :
    ∃ answer : Sheet, e.reply b (.extremeRows field word) = .ok answer
      ∧ answer.header = (if b.keyFields = [] then all.header else b.keyFields)
      ∧ (b.numericRows field all = [] → answer.rows = [])
      ∧ ∀ v, Value.IsFirst wanted ((b.numericRows field all).map (numberUnder all field)) v →
        answer.rows = ((b.numericRows field all).filter fun cells =>
          (numberUnder all field cells).compare? v = some .eq).map (b.keyed all) := by
  have checked := checked_of_connect connected
  obtain ⟨correct, clean, testable, shown⟩ := shown_of_all connected plain based ran
  obtain ⟨rows, numbers⟩ := @numericRows_eq e b field all shown
  have whole : all.header = e.dataset.sheet.header := by rw [shown]; rfl
  rw [reply_extremeRows connected plain based keys numeric correct clean testable named ends, if_neg few, if_pos shallow,
    ← numbers]
  generalize bestIs : Aggregate.bestOf wanted ((b.numericRows field all).map (numberUnder all field)) = best
  obtain ⟨answer, made, header, listed⟩ := checked.sheet_keyed (fun key member => plain.isPlainColumn (keys member)) whole
    (mem_rows_of_numericKept fun row => (Value.ofNumeral (e.cell field row)).compare? best = some .eq)
  have held : answer.rows = ((b.numericRows field all).filter fun cells =>
      (numberUnder all field cells).compare? best = some .eq).map (b.keyed all) := by
    rw [listed, rows, List.filter_map, shown]
    rfl
  refine ⟨answer, made, header, fun rowless => by rw [held, rowless]; rfl, fun v first => ?_⟩
  -- Any value at this end compares like the one that the engine has picked.
  have areNumbers := isNumber_numbers b field all
  have picked := bestIs ▸ Aggregate.isFirst_bestOf ends areNumbers (List.ne_nil_of_mem first.1)
  rw [held]
  refine congrArg (List.map (b.keyed all)) (List.filter_congr fun cells _ => ?_)
  rw [picked.compare?_eq (Aggregate.strict_of_end? ends) areNumbers first (isNumber_numberUnder all field cells)]

/-- The rows that the filters let pass and whose cell counts as a number are the ones that all aggregates of a field
    are about. The count is their number. The greatest and the least number are numbers of these rows, written out,
    and there is none without such rows. The rows of an extreme are exactly those that hold it, in the order of the
    table, cut down to the key fields. The engine refuses only key fields that are more than its columns can be, and
    conditions that are nested too deeply. -/
theorem extremes_of_same_rows (e : Engine) (b : QueryBuilder) (field word : String) (function : Aggregate)
    (s : Session Unit Bool) (all : Sheet) (connected : e.connect = .ok true) (plain : e.HasPlainColumns)
    (based : b.IsOver e) (keys : b.keyFields ⊆ e.dataset.sheet.header) (numeric : b.checkNumeric field = .ok ())
    (ran : (s.ask e.backend b .all).1 = .ok all) (named : Aggregate.read? word = some function) :
    let rows := b.numericRows field all
    let numbers := rows.map (numberUnder all field)
    let aggregated := (s.aggregate e.backend b field word).1
    let looked := (s.ask e.backend b (.extremeRows field word)).1
    (if b.isShallow (.aggregate field word) then
      (function = .count → aggregated = .ok (some rows.length.repr))
        ∧ ∀ wanted, function.end? = some wanted → (rows = [] → aggregated = .ok none)
          ∧ (rows ≠ [] → ∃ v, Value.IsFirst wanted numbers v ∧ aggregated = .ok (some v.toText))
    else aggregated = .error (.execution (.refused .tooDeep)))
      ∧ ∀ wanted, function.end? = some wanted →
        if columnLimit < b.keyFields.length then looked = .error (.execution (.refused .tooManyColumns))
        else if b.isShallow (.extremeRows field word) then
          ∃ answer : Sheet, looked = .ok answer ∧ answer.header = (if b.keyFields = [] then all.header else b.keyFields)
            ∧ (rows = [] → answer.rows = [])
            ∧ ∀ v, Value.IsFirst wanted numbers v → answer.rows
              = (rows.filter fun cells => (numberUnder all field cells).compare? v = some .eq).map (b.keyed all)
        else looked = .error (.execution (.refused .tooDeep)) := by
  intro rows numbers aggregated looked
  rw [ask_backend connected] at ran
  obtain ⟨correct, clean, testable, _⟩ := shown_of_all connected plain based ran
  constructor
  · split
    next shallow => exact aggregate_of_shown connected plain based numeric s ran named shallow
    next deep => exact aggregate_of_deep connected plain based numeric s ran named deep
  · intro wanted ends
    have replied := reply_extremeRows connected plain based keys numeric correct clean testable named ends
    have asked : looked = e.reply b (.extremeRows field word) := ask_backend connected s b _
    rw [asked]
    split
    next many => rw [replied, if_pos many]
    next few =>
        split
        next shallow => exact extremeRows_of_shown connected plain based keys numeric ran named ends few shallow
        next deep => rw [replied, if_neg few, if_neg deep]

/-- A table of water levels. Two stations have the highest one, and two have none. -/
def stations : Engine where
  tableName := "stations"
  dataset := ⟨"stations", ⟨["id", "level"], [["a", "3"], ["b", ""], ["c", "-20"], ["d", "dry"], ["e", "3.0"],
    ["f", "7"]], by decide⟩⟩

/-- Queries for the stations other than f, known by their ids. -/
def otherStations : QueryBuilder where
  table := "stations"
  fields := ["id", "level"]
  keyFields := ["id"]
  filters := [⟨"id", .text .different, "f"⟩]

/-- The highest level is that of a and e, and it is the greatest of three. -/
theorem extremes_of_same_rows_stations :
    let s : Session Unit Bool := ⟨(), none, []⟩
    (∃ v, Value.IsFirst .gt [.integer 3, .integer (-20), .integer 3] v
        ∧ (s.aggregate stations.backend otherStations "level" "max").1 = .ok (some v.toText))
      ∧ ∃ answer : Sheet, (s.ask stations.backend otherStations (.extremeRows "level" "max")).1 = .ok answer
        ∧ answer.header = ["id"] ∧ answer.rows = [["a"], ["e"]] := by
  let all : Sheet := ⟨["id", "level"], [["a", "3"], ["b", ""], ["c", "-20"], ["d", "dry"], ["e", "3.0"]], by decide⟩
  have told := extremes_of_same_rows stations otherStations "level" "max" .max ⟨(), none, []⟩ all rfl (by decide)
    ⟨rfl, by decide, by decide⟩ (by decide) rfl (by rfl) (by decide)
  have shallow : otherStations.isShallow (.aggregate "level" "max") = true := by decide
  have shallow' : otherStations.isShallow (.extremeRows "level" "max") = true := by decide
  have few : ¬columnLimit < otherStations.keyFields.length := by decide
  have numbers : (otherStations.numericRows "level" all).map (numberUnder all "level")
      = [.integer 3, .integer (-20), .integer 3] := by decide +kernel
  simp only [if_pos shallow, if_pos shallow', if_neg few, numbers] at told
  obtain ⟨⟨_, picked⟩, looked⟩ := told
  obtain ⟨answer, asked, header, _, rows⟩ := looked .gt rfl
  refine ⟨(picked .gt rfl).2 (by decide), answer, asked, header, ?_⟩
  rw [rows (.integer 3) ⟨by decide, by decide⟩]
  decide +kernel

end Engine

end Datasheet.Sql
