import Datasheet.Proofs.Selection.Meaning
import Datasheet.Proofs.Sql.Testing

/-! # One filter for an engine and a selection

Where the tests of a filter come to a property of the cell, the engine answers the rows whose cell has the property.
A selection by the same filter answers the rows whose cell the filter admits. So the two can be compared cell by cell.
-/

namespace Datasheet.Sql

/-! ## Depth -/

theorem Scalar.height_le (s : Scalar) : s.height ≤ 2 := by
  cases s <;> simp [height]

theorem Test.height_le (t : Test) : t.height ≤ 4 := by
  cases t with
  | compare left comparison right =>
      have first := left.height_le
      have second := right.height_le
      simp only [height]
      omega
  | like subject pattern =>
      have first := subject.height_le
      have second := pattern.height_le
      simp only [height]
      omega
  | glob subject negated pattern =>
      have first := subject.height_le
      simp only [height]
      split <;> omega

theorem joinedHeight_le {heights : List Nat} {bound : Nat} (all : ∀ h ∈ heights, h ≤ bound) :
    joinedHeight heights ≤ bound + heights.length := by
  have joined (heights : List Nat) (all : ∀ h ∈ heights, h ≤ bound) (start extra : Nat) (small : start ≤ bound + extra) :
      heights.foldl (fun joined h => max joined h + 1) start ≤ bound + extra + heights.length := by
    induction heights generalizing start extra with
    | nil => exact small
    | cons h heights ih =>
        obtain ⟨first, others⟩ := List.forall_mem_cons.1 all
        have further := ih others (max start h + 1) (extra + 1) (by omega)
        simp only [List.foldl_cons, List.length_cons]
        omega
  cases heights with
  | nil => exact Nat.zero_le _
  | cons h heights =>
      obtain ⟨first, others⟩ := List.forall_mem_cons.1 all
      have whole := joined heights others h 0 first
      simp only [joinedHeight, List.length_cons]
      omega

theorem QueryBuilder.length_tests_le (b : QueryBuilder) (f : Filter) : (b.tests f).length ≤ 4 := by
  obtain ⟨field, operator, value⟩ := f
  cases operator with
  | text op => simp [tests]
  | numeric op =>
      simp only [tests, guard]
      split <;> simp
  | date op => simp [tests]

theorem QueryBuilder.joinedHeight_tests (b : QueryBuilder) (f : Filter) :
    joinedHeight ((b.tests f).map Test.height) ≤ heightLimit := by
  have all : ∀ h ∈ (b.tests f).map Test.height, h ≤ 4 := by
    intro h member
    obtain ⟨t, _, rfl⟩ := List.mem_map.1 member
    exact t.height_le
  have few := b.length_tests_le f
  have deep := joinedHeight_le all
  rw [List.length_map] at deep
  exact Nat.le_trans deep (Nat.le_trans (Nat.add_le_add_left few 4) (by decide))

namespace Engine

variable {e : Engine} {b : QueryBuilder} {f : Filter}

/-! ## Rows whose cell has a property -/

theorem filter_eq_filter_iff {α : Type} {rows : List α} {p q : α → Bool} :
    rows.filter p = rows.filter q ↔ ∀ row ∈ rows, p row = q row := by
  refine ⟨fun same row member => ?_, List.filter_congr⟩
  have alike : row ∈ rows.filter p ↔ row ∈ rows.filter q := by rw [same]
  rw [List.mem_filter, List.mem_filter, and_iff_right member, and_iff_right member] at alike
  exact Bool.eq_iff_iff.2 alike

theorem cellsOf_eq_map {field : String} (column : field ∈ e.dataset.sheet.header) :
    e.dataset.sheet.cellsOf field
      = e.dataset.sheet.rows.map fun cells => cells.getD (e.dataset.sheet.header.idxOf field) "" := by
  have known := cellsOf_sheetOfRows (fun _ inside => inside) column
  rw [e.sheetOfRows_rows] at known
  rw [known, ← e.map_cells_rows, List.map_map]
  rfl

/-- Two answers that keep rows by their cell are the same only if they agree on every cell. -/
theorem answers_eq_iff {field : String} (column : field ∈ e.dataset.sheet.header) {answer answer' : Sheet}
    {p q : String → Prop} [DecidablePred p] [DecidablePred q] (header : answer.header = answer'.header)
    (rows : answer.rows = e.dataset.sheet.rows.filter fun cells =>
      p (cells.getD (e.dataset.sheet.header.idxOf field) ""))
    (rows' : answer'.rows = e.dataset.sheet.rows.filter fun cells =>
      q (cells.getD (e.dataset.sheet.header.idxOf field) "")) :
    answer = answer' ↔ ∀ cell ∈ e.dataset.sheet.cellsOf field, (p cell ↔ q cell) := by
  have sheets : answer = answer' ↔ answer.rows = answer'.rows := ⟨congrArg Sheet.rows, Sheet.ext header⟩
  rw [sheets, rows, rows', filter_eq_filter_iff, cellsOf_eq_map column, List.forall_mem_map]
  simp only [decide_eq_decide]

theorem passing_of_told {tests : List Test} {field : String} {p : String → Prop} [DecidablePred p]
    (told : ∀ row ∈ e.table.rows, Check.allHold e.table row (tests.map .test) = .ok (decide (p (e.cell field row)))) :
    e.Testable tests ∧ (e.passing tests).map (·.cells)
      = e.dataset.sheet.rows.filter fun cells => p (cells.getD (e.dataset.sheet.header.idxOf field) "") := by
  refine ⟨fun row member => ⟨_, told row member⟩, ?_⟩
  rw [← e.map_cells_rows, List.filter_map, passing]
  refine congrArg _ (List.filter_congr fun row member => ?_)
  rw [told row member]
  simp [cell]

theorem reply_alone (connected : e.connect = .ok true) (table : b.table = e.tableName) (alone : b.filters = [f])
    (column : e.IsPlainColumn f.field) (correct : b.checkFilter f = .ok ()) (clean : NulFree (QueryBuilder.literalOf f)) :
    e.reply b .all = e.plainAnswer (.rows [] none) (b.tests f) := by
  have made : b.query .all = .ok ⟨.rows [] none, Name.ofText b.table, (b.tests f).map .test⟩ := by
    refine QueryBuilder.query_eq_ok.2 ⟨_, rfl, by simpa [alone] using correct, ?_⟩
    simp [Outline.query, alone]
  rw [reply_eq_answerOf (checked_of_connect connected) table made (by simp [QueryBuilder.namedFields])
      (by simpa [alone] using column) (by simpa [alone] using clean) rfl,
    answerOf_tests (Nat.zero_le _)]

/-- The engine answers the rows whose cell has the property that the tests of the only filter come to. -/
theorem reply_of_told (connected : e.connect = .ok true) (table : b.table = e.tableName) (alone : b.filters = [f])
    (column : e.IsPlainColumn f.field) (correct : b.checkFilter f = .ok ()) (clean : NulFree (QueryBuilder.literalOf f))
    {p : String → Prop} [DecidablePred p]
    (told : ∀ row ∈ e.table.rows,
      Check.allHold e.table row ((b.tests f).map .test) = .ok (decide (p (e.cell f.field row)))) :
    ∃ answer : Sheet, e.reply b .all = .ok answer ∧ answer.header = e.dataset.sheet.header
      ∧ answer.rows = e.dataset.sheet.rows.filter fun cells =>
        p (cells.getD (e.dataset.sheet.header.idxOf f.field) "") := by
  obtain ⟨testable, passed⟩ := passing_of_told told
  refine ⟨e.sheetOfRows (e.passing (b.tests f)) fun _ => mem_rows_of_passing, ?_, rfl, passed⟩
  rw [reply_alone connected table alone column correct clean,
    plainAnswer_of_testable (b.joinedHeight_tests f) testable, sheet_rows]

theorem run_single (column : f.field ∈ e.dataset.sheet.header) (readable : f.IsReadable) (ignoreCase : Bool) :
    ∃ selected, Selection.run { filters := [f], ignoreCase := ignoreCase } e.dataset = .ok selected
      ∧ selected.header = e.dataset.sheet.header
      ∧ selected.rows = e.dataset.sheet.rows.filter fun cells =>
        f.Admits ignoreCase (cells.getD (e.dataset.sheet.header.idxOf f.field) "") :=
  Selection.run_single column readable ignoreCase

end Engine

end Datasheet.Sql
