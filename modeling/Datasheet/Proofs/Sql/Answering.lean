import Mathlib.Data.String.Basic
import Datasheet.Proofs.Sql.Connecting
import Datasheet.Proofs.Sql.Template

/-! # Answering the queries of a builder

An engine reads each text of a builder over its columns as the query that the text was made of, unless a filter's
value has a NUL. A query without an aggregate in its conditions is then answered from the rows that pass all
tests, in the order of the table.
-/

namespace Datasheet.Sql

/-! ## Rows that pass -/

theorem Comparison.holds_text (v w : String) :
    Comparison.equal.holds (.text v) (.text w) = decide (v = w)
      ∧ Comparison.notEqual.holds (.text v) (.text w) = decide (v ≠ w) := by
  have same : compare v w = .eq ↔ v = w := compare_eq_iff_eq
  constructor
  · change (compare v w == .eq) = _
    rw [Bool.eq_iff_iff, beq_iff_eq, same, decide_eq_true_eq]
  · change (compare v w != .eq) = _
    rw [Bool.eq_iff_iff, bne_iff_ne, Ne, same, decide_eq_true_eq]

namespace Check

theorem allHold_append (t : Table) (row : Row) (first second : List Check) :
    allHold t row (first ++ second)
      = (allHold t row first).bind fun holds => if holds then allHold t row second else .ok false := by
  induction first with
  | nil => rfl
  | cons check first ih =>
      rw [List.cons_append, allHold, allHold, ih]
      cases check.holds t row with
      | error fault => rfl
      | ok holds => cases holds <;> rfl

theorem allHold_singleton {t : Table} {row : Row} {test : Test} {verdict : Bool} (made : test.holds t row = .ok verdict) :
    allHold t row [.test test] = .ok verdict := by
  rw [allHold, holds, made]
  cases verdict <;> rfl

theorem scan_eq_ok {t : Table} {checks : List Check} {rows kept : List Row} : scan t checks none rows = .ok kept ↔
    (∀ row ∈ rows, ∃ verdict, allHold t row checks = .ok verdict)
      ∧ kept = rows.filter fun row => allHold t row checks = .ok true := by
  induction rows generalizing kept with
  | nil => simp [scan, eq_comm]
  | cons row rows ih =>
      rw [scan, bind_eq_ok, List.forall_mem_cons]
      · constructor
        · rintro ⟨holds, verdict, made⟩
          cases holds with
          | false =>
              obtain ⟨all, rfl⟩ := ih.1 made
              exact ⟨⟨⟨false, verdict⟩, all⟩, by simp [verdict]⟩
          | true =>
              obtain ⟨others, later, made⟩ := bind_eq_ok.1 made
              obtain ⟨all, rfl⟩ := ih.1 later
              obtain rfl := Except.ok.inj made
              exact ⟨⟨⟨true, verdict⟩, all⟩, by simp [verdict]⟩
        · rintro ⟨⟨⟨holds, verdict⟩, all⟩, rfl⟩
          refine ⟨holds, verdict, ?_⟩
          cases holds with
          | false => exact ih.2 ⟨all, by simp [verdict]⟩
          | true => exact bind_eq_ok.2 ⟨_, ih.2 ⟨all, rfl⟩, by simp [verdict]⟩
      · simp

/-- Conditions that can be told of every row take away rows that the other conditions let pass. -/
theorem scan_append {t : Table} {rows kept : List Row} {first rest : List Check} {p : Row → Prop} [DecidablePred p]
    (told : ∀ row ∈ rows, allHold t row first = .ok (decide (p row))) (scanned : scan t rest none rows = .ok kept) :
    scan t (first ++ rest) none rows = .ok (kept.filter p) := by
  obtain ⟨all, rfl⟩ := scan_eq_ok.1 scanned
  have both {row : Row} (member : row ∈ rows) :
      allHold t row (first ++ rest) = if p row then allHold t row rest else .ok false := by
    rw [allHold_append, told row member]
    by_cases holds : p row <;> simp [Except.bind, holds]
  refine scan_eq_ok.2 ⟨fun row member => ?_, ?_⟩
  · rw [both member]
    split
    next => exact all row member
    next => exact ⟨false, rfl⟩
  · rw [List.filter_filter]
    refine List.filter_congr fun row member => ?_
    rw [both member]
    by_cases holds : p row <;> simp [holds]

end Check

/-! ## Builders over an engine -/

/-- A builder for queries over the table of an engine. It knows fields, all of them columns. -/
structure QueryBuilder.IsOver (b : QueryBuilder) (e : Engine) : Prop where
  table : b.table = e.tableName
  hasFields : b.fields ≠ []
  fields : b.fields ⊆ e.dataset.sheet.header

theorem QueryBuilder.IsOver.mem_of_checkField {b : QueryBuilder} {e : Engine} (based : b.IsOver e) {field : String}
    (checked : b.checkField field = .ok ()) : field ∈ b.fields := by
  rw [QueryBuilder.checkField] at checked
  split at checked
  next known => simpa [based.hasFields] using known
  next => exact absurd checked (by simp)

theorem QueryBuilder.IsOver.mem_of_checkNumeric {b : QueryBuilder} {e : Engine} (based : b.IsOver e) {field : String}
    (numeric : b.checkNumeric field = .ok ()) : field ∈ e.dataset.sheet.header :=
  based.fields (based.mem_of_checkField (QueryBuilder.checkField_of_checkNumeric numeric))

theorem QueryBuilder.checkField_eq_ok {b : QueryBuilder} {field : String} (known : field ∈ b.fields) :
    b.checkField field = .ok () := by
  rw [QueryBuilder.checkField, if_pos]
  simp [known]

theorem QueryBuilder.IsOver.isPlainColumn_filters {b : QueryBuilder} {e : Engine} (based : b.IsOver e)
    (plain : e.HasPlainColumns) (checked : ∀ f ∈ b.filters, b.checkFilter f = .ok ()) :
    ∀ f ∈ b.filters, e.IsPlainColumn f.field := by
  intro f filter
  obtain ⟨_, field, _⟩ := bind_eq_ok.1 (checked f filter)
  exact plain.isPlainColumn (based.fields (based.mem_of_checkField field))

namespace Engine

variable {e : Engine} {b : QueryBuilder} {request : Request}

/-- The engine reads the name as a column, without a NUL, and it stands for something. -/
structure Reads (e : Engine) (name : String) : Prop where
  column : (Name.ofText name).IsColumn
  nulFree : NulFree name
  known : (e.table.resolve? (Name.ofText name)).isSome

theorem Checked.reads (checked : e.Checked) {name : String} (plain : e.IsPlainColumn name) : e.Reads name where
  column := checked.isColumn plain
  nulFree := checked.columnsNulFree name plain.1
  known := by
    rw [checked.resolve?_ofText plain]
    rfl

theorem isReadable_of_reads {names values : List String} {x : Operand} (known : x.IsOf names values)
    (read : ∀ name ∈ names, e.Reads name) : x.IsReadable := by
  cases x with
  | column n =>
      obtain ⟨name, member, rfl⟩ := known
      exact (read name member).column
  | text value => trivial

theorem isReadable_query {o : Outline} {table : Name} {filters : List Test} (own : ∀ x ∈ o.operands, x.IsReadable)
    (isTable : table.IsTable) (others : ∀ x ∈ filters.flatMap Test.operands, x.IsReadable) :
    (o.query table filters).IsReadable := by
  obtain ⟨answer, tests, extreme⟩ := o
  simp only [Outline.operands, List.forall_mem_append] at own
  obtain ⟨⟨beginning, leading⟩, ending⟩ := own
  have all : ∀ t ∈ tests ++ filters, ∀ x ∈ t.operands, x.IsReadable := by
    intro t member x inside
    rcases List.mem_append.1 member with member | member
    · exact leading x (List.mem_flatMap.2 ⟨t, member, inside⟩)
    · exact others x (List.mem_flatMap.2 ⟨t, member, inside⟩)
  cases extreme with
  | none =>
      refine ⟨beginning, isTable, fun c member => ?_⟩
      obtain ⟨t, inside, rfl⟩ := List.mem_map.1 member
      exact all t inside
  | some extreme =>
      obtain ⟨function, value⟩ := extreme
      have operand : value.operand.IsReadable := ending value.operand (by simp)
      refine ⟨beginning, isTable, fun c member => ?_⟩
      rcases List.mem_append.1 member with member | member
      · obtain ⟨t, inside, rfl⟩ := List.mem_map.1 member
        exact all t (List.mem_append_left _ inside)
      · rcases List.mem_cons.1 member with rfl | member
        · exact ⟨operand, operand, isTable, all⟩
        · obtain ⟨t, inside, rfl⟩ := List.mem_map.1 member
          exact all t (List.mem_append_right _ inside)

/-- The text of a query is answered as the query if the engine reads all names. -/
theorem answer_text (checked : e.Checked) (table : b.table = e.tableName) {q : Query}
    (made : b.query request = .ok q) (read : ∀ name ∈ b.namedFields request ++ b.filters.map (·.field), e.Reads name)
    (clean : ∀ f ∈ b.filters, NulFree (QueryBuilder.literalOf f)) : e.answer q.text = q.run e.table := by
  obtain ⟨operands, label⟩ := QueryBuilder.query_isOf made
  obtain ⟨o, outlined, _, rfl⟩ := QueryBuilder.query_eq_ok.1 made
  obtain ⟨named, fields⟩ := List.forall_mem_append.1 read
  have nulFree : ∀ name ∈ b.names request, NulFree name := by
    intro name member
    rcases List.mem_cons.1 member with rfl | member
    · rw [table]
      exact checked.tableNulFree
    · exact (read name member).nulFree
  have nulFree' : ∀ value ∈ b.filters.map QueryBuilder.literalOf, NulFree value := by simpa using clean
  have readable : (o.query (Name.ofText b.table) (b.filters.flatMap b.tests)).IsReadable := by
    refine isReadable_query ?_ (table ▸ checked.table) ?_
    · exact fun x member => isReadable_of_reads ((QueryBuilder.outline_eq_ok.1 outlined).isOf.1 x member) named
    · exact fun x member => isReadable_of_reads (QueryBuilder.filters_isOf member) fields
  rw [answer, Query.ofText?_text _ _ readable]
  · exact Query.forall_tokens Token.isFormal_isPlain label fun x member => (operands x member).isPlain
  · exact Query.forall_tokens Token.isFormal_isNulFree label fun x member =>
      (operands x member).isNulFree nulFree nulFree'

theorem nulFree_tokens_of_answer {q : Query} (made : b.query request = .ok q) {sheet : Sheet}
    (answered : e.answer q.text = .ok sheet) : ∀ t ∈ q.tokens, t.IsNulFree := by
  obtain ⟨operands, label⟩ := QueryBuilder.query_isOf made
  have lexed : (lex (spell q.tokens)).isSome := by
    rw [answer, Query.ofText?, Query.text, String.toList_ofList] at answered
    cases read : lex (spell q.tokens) with
    | none => simp [read] at answered
    | some tokens => rfl
  exact nulFree_of_lex_spell (Query.forall_tokens Token.isFormal_isPlain label fun x member => (operands x member).isPlain)
    lexed

theorem nulFree_of_answer {q : Query} (made : b.query request = .ok q) {sheet : Sheet}
    (answered : e.answer q.text = .ok sheet) : ∀ f ∈ b.filters, NulFree (QueryBuilder.literalOf f) :=
  fun _ filter => nulFree_tokens_of_answer made answered _ (QueryBuilder.literal_mem_tokens made filter)

theorem reply_eq_ok {sheet : Sheet} (answered : e.reply b request = .ok sheet) :
    ∃ q, b.query request = .ok q ∧ e.answer q.text = .ok sheet := by
  rw [reply, QueryBuilder.text] at answered
  cases made : b.query request with
  | error fault => simp [made, Except.map] at answered
  | ok q => exact ⟨q, rfl, by simpa [made, Except.map] using answered⟩

theorem reply_eq {q : Query} (made : b.query request = .ok q) : e.reply b request = e.answer q.text := by
  simp [reply, QueryBuilder.text, made, Except.map]

end Engine

/-! ## Running queries -/

/-- How deeply the conditions of a query are nested that has these tests before those of the filters. -/
def QueryBuilder.depth (b : QueryBuilder) (tests : List Test) : Nat :=
  joinedHeight ((tests ++ b.filters.flatMap b.tests).map Test.height)

theorem Scalar.operand_of_names {s : Scalar} {n : Name} (member : n ∈ s.names) : s.operand = .column n := by
  cases s with
  | plain x | upper x | trimmed x | day x | decimal x =>
      cases x with
      | column m =>
          obtain rfl := List.mem_singleton.1 member
          rfl
      | text value => exact absurd member List.not_mem_nil

theorem Test.mem_operands {t : Test} {n : Name} (member : n ∈ t.names) : .column n ∈ t.operands := by
  cases t with
  | compare left comparison right =>
      rcases List.mem_append.1 member with member | member
      · simp [operands, Scalar.operand_of_names member]
      · simp [operands, Scalar.operand_of_names member]
  | like subject pattern =>
      rcases List.mem_append.1 member with member | member
      · simp [operands, Scalar.operand_of_names member]
      · simp [operands, Scalar.operand_of_names member]
  | glob subject negated pattern => simp [operands, Scalar.operand_of_names member]

theorem Answer.mem_operands {a : Answer} {n : Name} (member : n ∈ a.names) : .column n ∈ a.operands := by
  cases a with
  | rows names window => exact List.mem_map.2 ⟨n, member, rfl⟩
  | distinct m | frequencies m pick =>
      obtain rfl := List.mem_singleton.1 member
      exact List.mem_cons_self
  | rowCount => exact absurd member List.not_mem_nil
  | aggregate function value label => simp [operands, Scalar.operand_of_names member]

theorem Answer.startFault?_eq_none {a : Answer} (whole : a.needed = none) : a.startFault? = none := by
  cases a with
  | rows names window =>
      cases window with
      | none => rfl
      | some w => exact absurd whole (by simp [needed])
  | distinct | rowCount | aggregate | frequencies => rfl

theorem Query.isShallow_tests (answer : Answer) (table : Name) (tests : List Test) :
    (Query.mk answer table (tests.map .test)).isShallow = decide (joinedHeight (tests.map Test.height) ≤ heightLimit) := by
  have heights : (tests.map Condition.test).map Condition.height = tests.map Test.height := by
    rw [List.map_map]
    rfl
  simp only [isShallow, heights, List.all_map]
  cases tests with
  | nil => simp [joinedHeight]
  | cons t tests =>
      rw [Bool.eq_iff_iff, List.all_eq_true, decide_eq_true_eq]
      constructor
      · intro all
        simpa [Condition.innerHeight] using all t List.mem_cons_self
      · intro shallow u _
        simpa [Condition.innerHeight] using shallow

theorem Test.mem_flatMap_operands {tests : List Test} {n : Name} (member : n ∈ tests.flatMap Test.names) :
    .column n ∈ tests.flatMap Test.operands := by
  obtain ⟨t, test, inside⟩ := List.mem_flatMap.1 member
  exact List.mem_flatMap.2 ⟨t, test, mem_operands inside⟩

theorem flatMap_names_map_test (tests : List Test) :
    (tests.map Condition.test).flatMap Condition.names = tests.flatMap Test.names := by
  rw [List.flatMap_map]
  rfl

namespace Outline

variable {o : Outline} {table n : Name} {filters : List Test}

theorem mem_names_query
    (member : n ∈ (o.query table filters).answer.names ++ (o.query table filters).conditions.flatMap Condition.names) :
    .column n ∈ o.operands ∨ .column n ∈ filters.flatMap Test.operands := by
  rw [answer_query] at member
  obtain ⟨answer, tests, extreme⟩ := o
  have beginning (inside : n ∈ answer.names) : .column n ∈ operands ⟨answer, tests, extreme⟩ :=
    List.mem_append_left _ (List.mem_append_left _ (Answer.mem_operands inside))
  have leading (inside : n ∈ tests.flatMap Test.names) : .column n ∈ operands ⟨answer, tests, extreme⟩ :=
    List.mem_append_left _ (List.mem_append_right _ (Test.mem_flatMap_operands inside))
  have others (inside : n ∈ (tests ++ filters).flatMap Test.names) :
      .column n ∈ operands ⟨answer, tests, extreme⟩ ∨ .column n ∈ filters.flatMap Test.operands := by
    rw [List.flatMap_append] at inside
    exact (List.mem_append.1 inside).imp leading Test.mem_flatMap_operands
  cases extreme with
  | none =>
      rw [query, flatMap_names_map_test] at member
      exact (List.mem_append.1 member).elim (fun inside => .inl (beginning inside)) others
  | some extreme =>
      obtain ⟨function, value⟩ := extreme
      have ending (inside : n ∈ value.names) : .column n ∈ operands ⟨answer, tests, some (function, value)⟩ := by
        refine List.mem_append_right _ ?_
        simp [Scalar.operand_of_names inside]
      simp only [query, List.flatMap_append, List.flatMap_cons, flatMap_names_map_test, Condition.names,
        List.mem_append] at member
      simp only [List.flatMap_append, List.mem_append] at others
      tauto

theorem table_query : (o.query table filters).table = table := by
  obtain ⟨answer, tests, extreme⟩ := o
  cases extreme <;> rfl

theorem eq_of_mem_tables (member : n ∈ (o.query table filters).conditions.flatMap Condition.tables) : n = table := by
  have noTables (tests : List Test) : (tests.map Condition.test).flatMap Condition.tables = [] := by
    rw [List.flatMap_map]
    simp [Condition.tables]
  obtain ⟨answer, tests, extreme⟩ := o
  cases extreme with
  | none =>
      rw [query, noTables] at member
      exact absurd member List.not_mem_nil
  | some extreme =>
      simp only [query, List.flatMap_append, List.flatMap_cons, noTables, Condition.tables] at member
      simpa using member

end Outline

namespace Engine

variable {e : Engine} {b : QueryBuilder} {request : Request}

/-- The answer of a query whose names are all known: none if it has too many columns, if its conditions are nested
    too deeply or if a row cannot be tested. -/
def answerOf (e : Engine) (q : Query) : Except Error Sheet :=
  if columnLimit < q.answer.names.length then .error (.execution (.refused .tooManyColumns))
  else if q.isShallow then
    match Check.scan e.table (q.conditions.map (·.check e.table)) none e.table.rows with
    | .ok kept => q.answer.sheet e.table kept
    | .error fault => .error (.execution (.refused fault))
  else .error (.execution (.refused .tooDeep))

theorem run_eq_answerOf {q : Query}
    (tables : ∀ n ∈ q.table :: q.conditions.flatMap Condition.tables, n = Name.ofText e.tableName)
    (resolved : ∀ n ∈ q.answer.names ++ q.conditions.flatMap Condition.names, (e.table.resolve? n).isSome)
    (whole : q.answer.needed = none) : q.run e.table = e.answerOf q := by
  have table : ((q.table :: q.conditions.flatMap Condition.tables).find? fun n => !sameName n.text e.table.name) = none := by
    rw [List.find?_eq_none]
    intro n member
    simp [tables n member, Name.ofText, Engine.table, sameName]
  have known : ((q.answer.names ++ q.conditions.flatMap Condition.names).find? fun n => (e.table.resolve? n).isNone)
      = none := by
    rw [List.find?_eq_none]
    intro n member
    simpa [Option.isSome_iff_ne_none] using resolved n member
  rw [Query.run, Query.fault?, Answer.startFault?_eq_none whole, answerOf]
  simp only [table, known, whole]
  by_cases many : columnLimit < q.answer.names.length
  · simp [many]
  · rw [if_neg many, if_neg many]
    cases q.isShallow <;> rfl

/-- The reply to a request that does not ask for a window, if the engine reads all names. -/
theorem reply_of_reads (checked : e.Checked) (table : b.table = e.tableName) {q : Query}
    (made : b.query request = .ok q) (read : ∀ name ∈ b.namedFields request ++ b.filters.map (·.field), e.Reads name)
    (clean : ∀ f ∈ b.filters, NulFree (QueryBuilder.literalOf f)) (whole : q.answer.needed = none) :
    e.reply b request = e.answerOf q := by
  obtain ⟨o, outlined, _, rfl⟩ := QueryBuilder.query_eq_ok.1 made
  obtain ⟨named, fields⟩ := List.forall_mem_append.1 read
  rw [reply_eq made, answer_text checked table made read clean]
  refine run_eq_answerOf (List.forall_mem_cons.2 ⟨?_, fun n member => ?_⟩) (fun n member => ?_) whole
  · rw [Outline.table_query, table]
  · rw [Outline.eq_of_mem_tables member, table]
  · have resolved {names values : List String} (known : (Operand.column n).IsOf names values)
        (read : ∀ name ∈ names, e.Reads name) : (e.table.resolve? n).isSome := by
      obtain ⟨name, inside, rfl⟩ := known
      exact (read name inside).known
    rcases Outline.mem_names_query member with member | member
    · exact resolved ((QueryBuilder.outline_eq_ok.1 outlined).isOf.1 _ member) named
    · exact resolved (QueryBuilder.filters_isOf member) fields

theorem reply_eq_answerOf (checked : e.Checked) (table : b.table = e.tableName) {q : Query}
    (made : b.query request = .ok q) (named : ∀ name ∈ b.namedFields request, e.IsPlainColumn name)
    (fields : ∀ f ∈ b.filters, e.IsPlainColumn f.field)
    (clean : ∀ f ∈ b.filters, NulFree (QueryBuilder.literalOf f)) (whole : q.answer.needed = none) :
    e.reply b request = e.answerOf q := by
  have fields : ∀ name ∈ b.filters.map (·.field), e.IsPlainColumn name := by simpa using fields
  refine reply_of_reads checked table made (fun name member => checked.reads ?_) clean whole
  exact (List.mem_append.1 member).elim (named name) (fields name)

/-- The answer of a query that every row is tested for: none if its conditions are nested too deeply or a row
    cannot be tested. -/
def plainAnswer (e : Engine) (answer : Answer) (tests : List Test) : Except Error Sheet :=
  if joinedHeight (tests.map Test.height) ≤ heightLimit then
    match Check.scan e.table (tests.map .test) none e.table.rows with
    | .ok kept => answer.sheet e.table kept
    | .error fault => .error (.execution (.refused fault))
  else .error (.execution (.refused .tooDeep))

theorem answerOf_tests {answer : Answer} {table : Name} {tests : List Test} (few : answer.names.length ≤ columnLimit) :
    e.answerOf ⟨answer, table, tests.map .test⟩ = e.plainAnswer answer tests := by
  have checks : (tests.map Condition.test).map (Condition.check e.table) = tests.map Check.test := by
    rw [List.map_map]
    rfl
  rw [answerOf, if_neg (Nat.not_lt.2 few), Query.isShallow_tests, plainAnswer, checks]
  simp only [decide_eq_true_eq]

theorem reply_plain (connected : e.connect = .ok true) (plain : e.HasPlainColumns) (based : b.IsOver e) {o : Outline}
    (outlined : b.outline request = .ok o) (correct : ∀ f ∈ b.filters, b.checkFilter f = .ok ())
    (clean : ∀ f ∈ b.filters, NulFree (QueryBuilder.literalOf f)) (named : b.namedFields request ⊆ e.dataset.sheet.header)
    (few : o.answer.names.length ≤ columnLimit) (whole : o.answer.needed = none) (noExtreme : o.extreme = none) :
    e.reply b request = e.plainAnswer o.answer (o.tests ++ b.filters.flatMap b.tests) := by
  have checked := checked_of_connect connected
  have made := QueryBuilder.query_eq_ok.2 ⟨o, outlined, correct, rfl⟩
  have flat : o.query (Name.ofText b.table) (b.filters.flatMap b.tests)
      = ⟨o.answer, Name.ofText b.table, (o.tests ++ b.filters.flatMap b.tests).map .test⟩ := by
    rw [Outline.query, noExtreme]
  rw [flat] at made
  rw [reply_eq_answerOf checked based.table made (fun name member => plain.isPlainColumn (named member))
    (based.isPlainColumn_filters plain correct) clean whole]
  exact answerOf_tests few

theorem reply_all (connected : e.connect = .ok true) (plain : e.HasPlainColumns) (based : b.IsOver e)
    (correct : ∀ f ∈ b.filters, b.checkFilter f = .ok ())
    (clean : ∀ f ∈ b.filters, NulFree (QueryBuilder.literalOf f)) :
    e.reply b .all = e.plainAnswer (.rows [] none) (b.filters.flatMap b.tests) := by
  have outlined : b.outline .all = .ok ⟨.rows [] none, [], none⟩ := rfl
  exact reply_plain connected plain based outlined correct clean (List.nil_subset _) (Nat.zero_le _) rfl rfl

/-- Each row can be tested. -/
def Testable (e : Engine) (tests : List Test) : Prop :=
  ∀ row ∈ e.table.rows, ∃ verdict, Check.allHold e.table row (tests.map .test) = .ok verdict

/-- The rows of which all tests hold, in the order of the table. -/
def passing (e : Engine) (tests : List Test) : List Row :=
  e.table.rows.filter fun row => Check.allHold e.table row (tests.map .test) = .ok true

theorem Testable.scan {tests : List Test} (testable : e.Testable tests) :
    Check.scan e.table (tests.map .test) none e.table.rows = .ok (e.passing tests) :=
  Check.scan_eq_ok.2 ⟨testable, rfl⟩

theorem plainAnswer_of_testable {answer : Answer} {tests : List Test}
    (shallow : joinedHeight (tests.map Test.height) ≤ heightLimit) (testable : e.Testable tests) :
    e.plainAnswer answer tests = answer.sheet e.table (e.passing tests) := by
  rw [plainAnswer, if_pos shallow, testable.scan]

theorem testable_of_plainAnswer {answer : Answer} {tests : List Test} {sheet : Sheet}
    (answered : e.plainAnswer answer tests = .ok sheet) :
    e.Testable tests ∧ answer.sheet e.table (e.passing tests) = .ok sheet := by
  rw [plainAnswer] at answered
  split at answered
  next =>
      cases scanned : Check.scan e.table (tests.map .test) none e.table.rows with
      | error fault => simp [scanned] at answered
      | ok kept =>
          obtain ⟨testable, rfl⟩ := Check.scan_eq_ok.1 scanned
          rw [scanned] at answered
          exact ⟨testable, answered⟩
  next => exact absurd answered (by simp)

theorem plainAnswer_eq_ok_iff {answer : Answer} {tests : List Test} {sheet : Sheet} :
    e.plainAnswer answer tests = .ok sheet ↔ joinedHeight (tests.map Test.height) ≤ heightLimit ∧ e.Testable tests
      ∧ answer.sheet e.table (e.passing tests) = .ok sheet := by
  constructor
  · intro answered
    refine ⟨?_, testable_of_plainAnswer answered⟩
    rw [plainAnswer] at answered
    split at answered
    next shallow => exact shallow
    next => exact absurd answered (by simp)
  · rintro ⟨shallow, testable, shown⟩
    rw [plainAnswer_of_testable shallow testable, shown]

theorem map_cells_rows (e : Engine) : e.table.rows.map (·.cells) = e.dataset.sheet.rows := by
  rw [table, List.map_map]
  exact List.zipIdx_map_fst 0 _

theorem length_cells {row : Row} (member : row ∈ e.table.rows) : row.cells.length = e.dataset.sheet.header.length := by
  refine e.dataset.sheet.rectangular row.cells ?_
  rw [← map_cells_rows]
  exact List.mem_map.2 ⟨row, member, rfl⟩

theorem mem_rows_of_passing {tests : List Test} {row : Row} (member : row ∈ e.passing tests) : row ∈ e.table.rows :=
  (List.mem_filter.1 member).1

/-- The sheet of some of the table's rows with all columns. -/
def sheetOfRows (e : Engine) (kept : List Row) (known : ∀ row ∈ kept, row ∈ e.table.rows) : Sheet :=
  ⟨e.dataset.sheet.header, kept.map (·.cells), by
    intro cells member
    obtain ⟨row, inside, rfl⟩ := List.mem_map.1 member
    exact length_cells (known row inside)⟩

theorem sheetOfRows_rows (e : Engine) : e.sheetOfRows e.table.rows (fun _ inside => inside) = e.dataset.sheet :=
  Sheet.ext rfl e.map_cells_rows

theorem sheet_rows {kept : List Row} (known : ∀ row ∈ kept, row ∈ e.table.rows) :
    (Answer.rows [] none).sheet e.table kept = .ok (e.sheetOfRows kept known) := by
  have headings : (columnsOf e.table []).map (·.1) = e.dataset.sheet.header := by
    rw [columnsOf, List.map_map]
    exact List.zipIdx_map_fst 0 _
  have shown (row : Row) (member : row ∈ kept) :
      ((columnsOf e.table []).map fun column => column.2 row).map Value.toText = row.cells := by
    refine List.ext_getElem ?_ fun i left right => ?_
    · simp [columnsOf, length_cells (known row member)]
      rfl
    · simp [columnsOf, Value.toText, List.getElem?_eq_getElem right]
  rw [Answer.sheet, sheetOf, headings, List.map_map]
  exact (congrArg (Sheet.ofRows _) (List.map_congr_left shown)).trans
    (Sheet.ofRows_eq_ok (e.sheetOfRows kept known).rectangular)

theorem shown_of_all (connected : e.connect = .ok true) (plain : e.HasPlainColumns) (based : b.IsOver e) {all : Sheet}
    (ran : e.reply b .all = .ok all) : (∀ f ∈ b.filters, b.checkFilter f = .ok ())
      ∧ (∀ f ∈ b.filters, NulFree (QueryBuilder.literalOf f)) ∧ e.Testable (b.filters.flatMap b.tests)
      ∧ all = e.sheetOfRows (e.passing (b.filters.flatMap b.tests)) fun _ => mem_rows_of_passing := by
  obtain ⟨q, made, answered⟩ := reply_eq_ok ran
  obtain ⟨_, _, correct, _⟩ := QueryBuilder.query_eq_ok.1 made
  have clean := nulFree_of_answer made answered
  rw [reply_all connected plain based correct clean] at ran
  obtain ⟨testable, shown⟩ := testable_of_plainAnswer ran
  rw [sheet_rows fun row => mem_rows_of_passing] at shown
  exact ⟨correct, clean, testable, (Except.ok.inj shown).symm⟩

theorem Checked.columnsOf_fields (checked : e.Checked) {columns : List String} (nonempty : columns ≠ [])
    (known : ∀ c ∈ columns, e.IsPlainColumn c) : columnsOf e.table (columns.map Name.ofText)
      = columns.map fun name => (name, fun row => Value.text (e.cell name row)) := by
  have named : columnsOf e.table (columns.map Name.ofText) = (columns.map Name.ofText).map fun n =>
      (e.table.heading n, fun row => e.table.value row n) := by
    cases columns with
    | nil => exact absurd rfl nonempty
    | cons name columns => rfl
  rw [named, List.map_map]
  refine List.map_congr_left fun name member => Prod.ext ?_ (funext fun row => ?_)
  · exact checked.heading_ofText (known _ member)
  · exact checked.value_ofText (known _ member) row

theorem Checked.sheet_fields (checked : e.Checked) {columns : List String} {kept : List Row} (nonempty : columns ≠ [])
    (known : ∀ c ∈ columns, e.IsPlainColumn c) : (Answer.rows (columns.map Name.ofText) none).sheet e.table kept
      = .ok ⟨columns, kept.map fun row => columns.map fun name => e.cell name row, by simp⟩ := by
  have made : (Answer.rows (columns.map Name.ofText) none).sheet e.table kept
      = Sheet.ofRows columns (kept.map fun row => columns.map fun name => e.cell name row) := by
    simp only [Answer.sheet, checked.columnsOf_fields nonempty known, sheetOf, List.map_map]
    simp [Function.comp_def, Value.toText]
  exact made.trans (Sheet.ofRows_eq_ok (by simp))

/-! ### Filled cells -/

variable {field : String}

theorem Checked.holds_plain (checked : e.Checked) (column : e.IsPlainColumn field) (row : Row)
    (comparison : Comparison) (value : String) :
    (Test.compare (.plain (QueryBuilder.column field)) comparison (.plain (.text value))).holds e.table row
      = .ok (comparison.holds (.text (e.cell field row)) (.text value)) := by
  have left : (Scalar.plain (QueryBuilder.column field)).value e.table row = .text (e.cell field row) :=
    checked.value_ofText column row
  have noNumber : (Scalar.plain (QueryBuilder.column field)).isNumeric e.table = false := by
    rw [QueryBuilder.column, Scalar.isNumeric, checked.resolve?_ofText column]
    rfl
  have right : (Scalar.plain (.text value)).value e.table row = .text value := rfl
  have noNumber' : (Scalar.plain (.text value)).isNumeric e.table = false := rfl
  simp only [Test.holds, left, right, noNumber, noNumber', Bool.false_eq_true, if_false]

theorem Checked.holds_filled (checked : e.Checked) (column : e.IsPlainColumn field) (row : Row) :
    (QueryBuilder.filled field).holds e.table row = .ok (decide (e.cell field row ≠ "")) := by
  rw [QueryBuilder.filled, checked.holds_plain column, (Comparison.holds_text _ _).2]

theorem Checked.allHold_filled (checked : e.Checked) (column : e.IsPlainColumn field) (row : Row)
    (tests : List Test) :
    Check.allHold e.table row ((QueryBuilder.filled field :: tests).map .test)
      = if e.cell field row ≠ "" then Check.allHold e.table row (tests.map .test) else .ok false := by
  rw [List.map_cons, Check.allHold, Check.holds, checked.holds_filled column row]
  by_cases empty : e.cell field row = ""
  · simp [bind, Except.bind, empty]
  · simp [bind, Except.bind, empty]

/-- A test for a filled cell takes away the rows whose cell is empty, and makes no row untestable. -/
theorem Checked.passing_filled (checked : e.Checked) (column : e.IsPlainColumn field) {tests : List Test}
    (testable : e.Testable tests) :
    e.Testable (QueryBuilder.filled field :: tests)
      ∧ e.passing (QueryBuilder.filled field :: tests) = (e.passing tests).filter fun row => e.cell field row ≠ "" := by
  have told : ∀ row ∈ e.table.rows, Check.allHold e.table row [.test (QueryBuilder.filled field)]
      = .ok (decide (e.cell field row ≠ "")) := fun row _ => Check.allHold_singleton (checked.holds_filled column row)
  obtain ⟨all, same⟩ := Check.scan_eq_ok.1 (Check.scan_append told testable.scan)
  exact ⟨all, same.symm⟩

theorem cellsOf_sheetOfRows {kept : List Row} (known : ∀ row ∈ kept, row ∈ e.table.rows)
    (column : field ∈ e.dataset.sheet.header) : (e.sheetOfRows kept known).cellsOf field = kept.map (e.cell field) := by
  have here := List.idxOf_lt_length_of_mem column
  rw [Sheet.cellsOf, @Sheet.column?_eq_some (e.sheetOfRows kept known) field column]
  simp only [Sheet.cellsAt, sheetOfRows, List.filterMap_map]
  rw [← List.filterMap_eq_map]
  refine List.filterMap_congr fun row member => ?_
  have inside : e.dataset.sheet.header.idxOf field < row.cells.length := by rwa [length_cells (known row member)]
  simp [cell, List.getElem?_eq_getElem inside]

end Engine

end Datasheet.Sql
