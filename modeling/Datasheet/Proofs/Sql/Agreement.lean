import Datasheet.Proofs.Sql.Offering
import Datasheet.Proofs.Sql.Testing

/-! # The engine and selections agree

The same filters are put to an engine as a query and to its dataset as a selection. Where both understand each
filter alike, both answer the same rows in the same order, with all columns or with some of them.
-/

namespace Datasheet

/-! ## Columns in the order of a header -/

theorem Selection.filter_contains {columns header : List String} (listed : columns.Sublist header)
    (distinct : header.Nodup) : header.filter (columns.contains ·) = columns := by
  induction listed with
  | slnil => rfl
  | cons name listed ih =>
      obtain ⟨fresh, distinct⟩ := List.nodup_cons.1 distinct
      have absent := mt (fun member => listed.subset member) fresh
      rw [List.filter_cons_of_neg (by simpa using absent), ih distinct]
  | @cons_cons columns header name listed ih =>
      obtain ⟨fresh, distinct⟩ := List.nodup_cons.1 distinct
      have others : header.filter ((name :: columns).contains ·) = header.filter (columns.contains ·) := by
        refine List.filter_congr fun other member => ?_
        have apart : other ≠ name := ne_of_mem_of_not_mem member fresh
        simp [apart]
      rw [List.filter_cons_of_pos (by simp), others, ih distinct]

theorem Selection.positions_of_sublist {s : Selection} {header : List String} (nonempty : s.columns ≠ [])
    (listed : s.columns.Sublist header) (distinct : header.Nodup) :
    s.positions header = s.columns.map header.idxOf := by
  have all : List.range header.length = header.map header.idxOf := by
    refine List.ext_getElem (by simp) fun index left right => ?_
    simp [distinct.idxOf_getElem]
  have named : header.filter ((fun index => s.columns.isEmpty || s.columns.contains (header.getD index "")) ∘ header.idxOf)
      = header.filter (s.columns.contains ·) := by
    refine List.filter_congr fun name member => ?_
    have here := List.idxOf_lt_length_of_mem member
    simp [nonempty, List.getElem?_eq_getElem here]
  rw [positions, all, List.filter_map, named, filter_contains listed distinct]

theorem Schema.mem_fieldNames {s : Schema} {name : String} {kind : Kind} (known : s.kindOf? name = some kind) :
    name ∈ s.fieldNames := by
  obtain ⟨f, found, _⟩ := Option.map_eq_some_iff.1 known
  have same : f.name = name := by simpa using List.find?_some found
  exact same ▸ List.mem_map.2 ⟨f, List.mem_of_find?_eq_some found, rfl⟩

end Datasheet

namespace Datasheet.Sql

open Text

/-- A builder for the table of an engine under a schema. -/
def Engine.builder (e : Engine) (schema : Schema) (filters : List Filter) : QueryBuilder :=
  { QueryBuilder.ofSchema e.tableName schema with filters := filters }

namespace Engine

variable {e : Engine} {settings : SchemaSettings} {lexicon : Lexicon} {schema : Schema} {filters : List Filter} {f : Filter}

/-! ## Builders of schemas -/

theorem isOver_builder (checked : e.Checked) (inferred : Schema.infer settings lexicon e.dataset = .ok schema) :
    (e.builder schema filters).IsOver e where
  table := rfl
  hasFields := by
    change schema.fieldNames ≠ []
    rw [(Schema.infer_fieldNames inferred).1]
    exact checked.hasColumns
  fields := by
    change schema.fieldNames ⊆ _
    rw [(Schema.infer_fieldNames inferred).1]
    exact List.Subset.refl _

theorem kinds_builder (inferred : Schema.infer settings lexicon e.dataset = .ok schema) (field : String) :
    Dictionary.get? field (e.builder schema filters).kinds = schema.kindOf? field :=
  QueryBuilder.kinds_ofSchema e.tableName field inferred

theorem Compares.kindOf? (compares : e.Compares schema f) : schema.kindOf? f.field = some f.operator.domain := by
  obtain ⟨field, operator, value⟩ := f
  cases operator with
  | text op | numeric op => exact compares.1
  | date op => exact compares.elim

theorem Compares.isReadable (compares : e.Compares schema f) : f.IsReadable := by
  obtain ⟨field, operator, value⟩ := f
  cases operator with
  | text op => trivial
  | numeric op =>
      obtain ⟨n, read⟩ := Option.isSome_iff_exists.1 compares.2.1
      obtain ⟨x, number, _⟩ := readNumber?_of_wholeNumber? read
      exact Option.isSome_iff_exists.2 ⟨x, number⟩
  | date op => exact compares.elim

theorem Compares.nulFree (compares : e.Compares schema f) : NulFree (QueryBuilder.literalOf f) := by
  refine QueryBuilder.nulFree_literalOf ?_
  obtain ⟨field, operator, value⟩ := f
  cases operator with
  | text op => exact nulFree_of_ascii compares.2.1
  | numeric op =>
      obtain ⟨n, read⟩ := Option.isSome_iff_exists.1 compares.2.1
      intro c member
      rcases range_of_wholeNumber? read c member with rfl | rfl | range
      · decide
      · decide
      · exact (Nat.lt_of_lt_of_le (by decide) range.1).ne'
  | date op => exact compares.elim

theorem Compares.mem_header (inferred : Schema.infer settings lexicon e.dataset = .ok schema)
    (compares : e.Compares schema f) : f.field ∈ e.dataset.sheet.header := by
  rw [← (Schema.infer_fieldNames inferred).1]
  exact Schema.mem_fieldNames compares.kindOf?

theorem Compares.checkFilter (inferred : Schema.infer settings lexicon e.dataset = .ok schema)
    (compares : e.Compares schema f) : (e.builder schema filters).checkFilter f = .ok () := by
  have named : f.field ∈ (e.builder schema filters).fields := Schema.mem_fieldNames compares.kindOf?
  have known : Dictionary.get? f.field (e.builder schema filters).kinds = some f.operator.domain :=
    (kinds_builder inferred f.field).trans compares.kindOf?
  refine (QueryBuilder.checkFilter_eq_ok_iff (List.ne_nil_of_mem named)).2 ⟨⟨named, compares.isReadable⟩, fun kind other => ?_⟩
  exact Option.some.inj (other.symm.trans known)

/-! ## Rows and columns -/

/-- The engine lets pass the rows that a selection by the same filters keeps. -/
theorem Checked.passing_filters (checked : e.Checked) (plain : e.HasPlainColumns)
    (inferred : Schema.infer settings lexicon e.dataset = .ok schema) (compares : ∀ f ∈ filters, e.Compares schema f)
    (short : ∀ f ∈ filters, IsShort f) {s : Selection} (same : s.filters = filters) (ignoreCase : s.ignoreCase = true) :
    let tests := filters.flatMap (e.builder schema filters).tests
    e.Testable tests
      ∧ (e.passing tests).map (·.cells)
        = e.dataset.sheet.rows.filter fun row => s.Keeps e.dataset.sheet.header row := by
  intro tests
  have columns : ∀ f ∈ filters, e.IsPlainColumn f.field :=
    fun f member => plain.isPlainColumn ((compares f member).mem_header inferred)
  have verdict {row : Row} (member : row ∈ e.table.rows) : Check.allHold e.table row (tests.map .test)
      = .ok (decide (∀ f ∈ filters, f.Admits true (e.cell f.field row))) :=
    checked.allHold_filters rfl (kinds_builder inferred) compares short columns member
  refine ⟨fun row member => ⟨_, verdict member⟩, ?_⟩
  rw [← e.map_cells_rows, List.filter_map, passing]
  refine congrArg _ (List.filter_congr fun row member => ?_)
  have kept : s.Keeps e.dataset.sheet.header row.cells ↔ ∀ f ∈ filters, f.Admits true (e.cell f.field row) := by
    rw [Selection.Keeps, same, ignoreCase]
    refine forall₂_congr fun f inside => ?_
    have here : e.dataset.sheet.header.idxOf f.field < row.cells.length := by
      rw [length_cells member]
      exact List.idxOf_lt_length_of_mem (columns f inside).1
    simp [cell, List.getElem?_eq_getElem here]
  rw [verdict member]
  simp [kept]

theorem Checked.sheet_columns (checked : e.Checked) (plain : e.HasPlainColumns)
    (distinct : e.dataset.sheet.header.Nodup) {s : Selection}
    (listed : s.columns.Sublist e.dataset.sheet.header) {kept : List Row} (known : ∀ row ∈ kept, row ∈ e.table.rows) :
    ∃ sheet : Sheet, (Answer.rows (s.columns.map Name.ofText) none).sheet e.table kept = .ok sheet
      ∧ sheet.header = Selection.restricted (s.positions e.dataset.sheet.header) e.dataset.sheet.header
      ∧ sheet.rows = (kept.map (·.cells)).map (Selection.restricted (s.positions e.dataset.sheet.header)) := by
  by_cases all : s.columns = []
  · have positions : s.positions e.dataset.sheet.header = List.range e.dataset.sheet.header.length := by
      simp [Selection.positions, all]
    refine ⟨e.sheetOfRows kept known, by rw [all]; exact sheet_rows known, ?_, ?_⟩
    · rw [positions, Selection.restricted_range rfl]
      rfl
    · rw [positions, List.map_map]
      exact List.map_congr_left fun row member => (Selection.restricted_range (length_cells (known row member))).symm
  · have cut (cells : List String) : Selection.restricted (s.positions e.dataset.sheet.header) cells
        = s.columns.map fun name => cells.getD (e.dataset.sheet.header.idxOf name) "" := by
      rw [Selection.positions_of_sublist all listed distinct, Selection.restricted, List.map_map]
      rfl
    have names : s.columns.map (fun name => e.dataset.sheet.header.getD (e.dataset.sheet.header.idxOf name) "")
        = s.columns.map id := List.map_congr_left fun name member => getD_idxOf (listed.subset member)
    refine ⟨_, checked.sheet_fields all fun c member => plain.isPlainColumn (listed.subset member), ?_, ?_⟩
    · rw [cut, names, List.map_id]
    · rw [List.map_map]
      exact List.map_congr_left fun row _ => (cut row.cells).symm

/-! ## Whole queries -/

/-- With the named columns, or with all columns if none is named, the engine answers what a selection answers. -/
theorem agree_on_columns (connected : e.connect = .ok true) (plain : e.HasPlainColumns)
    (inferred : Schema.infer settings lexicon e.dataset = .ok schema)
    (compares : ∀ f ∈ filters, e.Compares schema f) (short : ∀ f ∈ filters, IsShort f)
    (shallow : (e.builder schema filters).depth [] ≤ heightLimit) {columns : List String}
    (listed : columns.Sublist e.dataset.sheet.header) :
    ∃ answer : Sheet, Selection.run { filters := filters, columns := columns } e.dataset = .ok answer
      ∧ e.reply (e.builder schema filters) (.columns columns) = .ok answer
      ∧ answer.rowCount = (e.passing (filters.flatMap (e.builder schema filters).tests)).length := by
  have checked := checked_of_connect connected
  have header := (Schema.infer_fieldNames inferred).1
  have distinct : e.dataset.sheet.header.Nodup := header ▸ (Schema.infer_fieldNames inferred).2
  have based := @isOver_builder e settings lexicon schema filters checked inferred
  obtain ⟨testable, passed⟩ := @Checked.passing_filters e settings lexicon schema filters checked plain inferred compares
    short { filters := filters, columns := columns } rfl rfl
  have sound : ¬Selection.IsFaulty { filters := filters, columns := columns } e.dataset.sheet.header := by
    rintro (⟨f, member, unknown⟩ | ⟨f, member, unreadable⟩ | ⟨name, member, unknown⟩)
    · exact unknown ((compares f member).mem_header inferred)
    · exact unreadable (compares f member).isReadable
    · exact unknown (listed.subset member)
  obtain ⟨answer, ran, answerHeader, answerRows⟩ := Selection.run_eq_ok sound
  obtain ⟨sheet, made, sheetHeader, sheetRows⟩ := @Checked.sheet_columns e checked plain distinct
    { filters := filters, columns := columns } listed (e.passing (filters.flatMap (e.builder schema filters).tests))
    fun row => mem_rows_of_passing
  -- Both are now told by the same rows and positions of the dataset.
  have same : sheet = answer := by
    apply Sheet.ext
    · rw [sheetHeader, answerHeader]
    · rw [sheetRows, answerRows, passed]
  have outlined : (e.builder schema filters).outline (.columns columns)
      = .ok ⟨.rows (columns.map Name.ofText) none, [], none⟩ := by
    refine bind_eq_ok.2 ⟨(), QueryBuilder.forM_checked_eq_ok.2 fun name member => ?_, rfl⟩
    refine QueryBuilder.checkField_eq_ok ?_
    change name ∈ schema.fieldNames
    exact header ▸ listed.subset member
  have few : (columns.map Name.ofText).length ≤ columnLimit := by
    rw [List.length_map]
    exact Nat.le_trans listed.length_le checked.few
  refine ⟨answer, ran, ?_, ?_⟩
  · rw [reply_plain connected plain based outlined (fun f member => (compares f member).checkFilter inferred)
      (fun f member => (compares f member).nulFree) listed.subset few rfl rfl]
    exact (plainAnswer_of_testable shallow testable).trans (same ▸ made)
  · rw [← same, Sheet.rowCount, sheetRows, List.length_map, List.length_map]

theorem sheet_rowCount (kept : List Row) :
    Answer.rowCount.sheet e.table kept = .ok ⟨["num_rows"], [[kept.length.repr]], by simp⟩ := by
  change Sheet.ofRows ["num_rows"] [[kept.length.repr]] = _
  exact Sheet.ofRows_eq_ok (by simp)

theorem reply_rowCount (connected : e.connect = .ok true) (plain : e.HasPlainColumns)
    (inferred : Schema.infer settings lexicon e.dataset = .ok schema)
    (compares : ∀ f ∈ filters, e.Compares schema f) (short : ∀ f ∈ filters, IsShort f)
    (shallow : (e.builder schema filters).depth [] ≤ heightLimit) :
    ∃ count : Sheet, e.reply (e.builder schema filters) .rowCount = .ok count ∧ count.header = ["num_rows"]
      ∧ count.rows = [[(e.passing (filters.flatMap (e.builder schema filters).tests)).length.repr]] := by
  have checked := checked_of_connect connected
  have testable := (@Checked.passing_filters e settings lexicon schema filters checked plain inferred compares short
    { filters := filters } rfl rfl).1
  have outlined : (e.builder schema filters).outline .rowCount = .ok ⟨.rowCount, [], none⟩ := rfl
  refine ⟨⟨["num_rows"], [[(e.passing (filters.flatMap (e.builder schema filters).tests)).length.repr]], by simp⟩, ?_,
    rfl, rfl⟩
  rw [reply_plain connected plain (isOver_builder checked inferred) outlined
    (fun f member => (compares f member).checkFilter inferred) (fun f member => (compares f member).nulFree)
    (List.nil_subset _) (Nat.zero_le _) rfl rfl]
  exact (plainAnswer_of_testable shallow testable).trans (sheet_rowCount _)

/-- An engine and a selection answer the same filters alike, row by row in the order of the dataset, as long as the
    filters compare ASCII texts under fields of texts or whole numbers under fields of numbers. The engine counts as
    many rows, and columns that are named in the order of the header are the selection's columns. -/
theorem agrees_with_selection (e : Engine) (settings : SchemaSettings) (lexicon : Lexicon) (schema : Schema)
    (filters : List Filter) (columns : List String) (s : Session Unit Bool) (connected : e.connect = .ok true)
    (plain : e.HasPlainColumns) (inferred : Schema.infer settings lexicon e.dataset = .ok schema)
    (compares : ∀ f ∈ filters, e.Compares schema f) (short : ∀ f ∈ filters, IsShort f)
    (shallow : (e.builder schema filters).depth [] ≤ heightLimit) (listed : columns.Sublist e.dataset.sheet.header) :
    ∃ answer count projected : Sheet,
      (Selection.run { filters := filters } e.dataset = .ok answer
        ∧ (s.ask e.backend (e.builder schema filters) .all).1 = .ok answer)
      ∧ ((s.ask e.backend (e.builder schema filters) .rowCount).1 = .ok count
        ∧ count.header = ["num_rows"] ∧ count.rows = [[answer.rowCount.repr]])
      ∧ Selection.run { filters := filters, columns := columns } e.dataset = .ok projected
      ∧ (s.ask e.backend (e.builder schema filters) (.columns columns)).1 = .ok projected := by
  have all : e.reply (e.builder schema filters) .all = e.reply (e.builder schema filters) (.columns []) := rfl
  obtain ⟨answer, ran, replied, counted⟩ := agree_on_columns connected plain inferred compares short shallow
    (List.nil_sublist _)
  obtain ⟨projected, ran', replied', _⟩ := agree_on_columns connected plain inferred compares short shallow listed
  obtain ⟨count, replied'', heading, cells⟩ := reply_rowCount connected plain inferred compares short shallow
  refine ⟨answer, count, projected, ⟨ran, ?_⟩, ⟨?_, heading, ?_⟩, ran', ?_⟩
  · rw [ask_backend connected, all, replied]
  · rw [ask_backend connected, replied'']
  · rw [cells, counted]
  · rw [ask_backend connected, replied']

/-- A table of employees, one of them without a salary. -/
def employees : Engine where
  tableName := "employees"
  dataset := ⟨"employees", ⟨["name", "dept", "salary"], [["Alice", "Sales", "30000"], ["Bob", "Marketing", "45000"],
    ["Carol", "Sales", "52000"], ["Dan", "Marketing", ""], ["Fay", "Support", "+41000"]], by decide⟩⟩

/-- The schema of the employees, without main values. -/
def employeeSchema : Schema where
  name := "employees"
  fields := [
    { name := "name", readableNames := [("en", "name")], kind := .text, distinct := 5 },
    { name := "dept", readableNames := [("en", "dept")], kind := .text, distinct := 3 },
    { name := "salary", readableNames := [("en", "salary")], kind := .number, distinct := 5 }]

/-- Bob and Fay earn enough and are not in sales, to the engine and to a selection. -/
theorem agrees_with_selection_employees :
    let filters : List Filter := [⟨"salary", .numeric .greaterOrEqual, "40000"⟩, ⟨"dept", .text .different, "sales"⟩]
    let s : Session Unit Bool := ⟨(), none, []⟩
    ∃ answer projected : Sheet,
      Selection.run { filters := filters } employees.dataset = .ok answer
        ∧ (s.ask employees.backend (employees.builder employeeSchema filters) .all).1 = .ok answer
        ∧ (s.ask employees.backend (employees.builder employeeSchema filters) (.columns ["name", "salary"])).1
          = .ok projected ∧ projected.rows = [["Bob", "45000"], ["Fay", "+41000"]] := by
  obtain ⟨answer, _, projected, ⟨ran, asked⟩, _, ran', asked'⟩ := agrees_with_selection employees
    { maxDistinct := 2 } (Lexicon.ofColumns ["name", "dept", "salary"] ["en"]) employeeSchema
    [⟨"salary", .numeric .greaterOrEqual, "40000"⟩, ⟨"dept", .text .different, "sales"⟩] ["name", "salary"]
    ⟨(), none, []⟩ rfl (by decide) (by decide +kernel) (by decide) (by decide) (by decide) (by decide)
  refine ⟨answer, projected, ran, asked, asked', ?_⟩
  have rows := congrArg (Except.map (·.rows)) ran'
  exact Except.ok.inj (rows.symm.trans (by decide +kernel))

end Engine

end Datasheet.Sql
