import Datasheet.Proofs.Sql.Comparing

/-! # Texts compared with regard to case

A selection that regards case compares the texts as they are, by every operator. The engine does so where it is asked
for equal or different texts. Its patterns ignore the case of ASCII letters all the same, so a filter for a part of a
text may let more rows pass than the selection keeps.
-/

namespace Datasheet

/-- What the engine sees of a text that it compares with regard to case. -/
def TextOperator.seen (op : TextOperator) (s : String) : List Char :=
  match op with
  | equals | different => s.toList
  | contains | startsWith | endsWith => s.toList.map Sql.matched

theorem TextOperator.relates_seen {op : TextOperator} {cell value : String} (related : op.Relates cell.toList value.toList) :
    op.Relates (op.seen cell) (op.seen value) := by
  cases op with
  | equals | different => exact related
  | contains => exact List.IsInfix.map Sql.matched related
  | startsWith => exact List.IsPrefix.map Sql.matched related
  | endsWith => exact List.IsSuffix.map Sql.matched related

namespace Sql.Engine

variable {e : Engine} {b : QueryBuilder} {field value : String}

/-- With regard to case, the test of a text operator is what the operator relates in what the engine sees. -/
theorem Checked.holds_textTest_plain (checked : e.Checked) (exactly : b.ignoreCase = false)
    (column : e.IsPlainColumn field) {row : Row} (cell : NulFree (e.cell field row)) (clean : NulFree value)
    {op : TextOperator} (short : IsShort ⟨field, .text op, value⟩) :
    (b.textTest field value op).holds e.table row
      = .ok (decide (op.Relates (op.seen (e.cell field row)) (op.seen value))) := by
  have plain (x : Operand) : b.folded x = .plain x := by
    rw [QueryBuilder.folded, exactly]
    rfl
  cases op with
  | equals =>
      rw [QueryBuilder.textTest, plain, plain, checked.holds_plain column, (Comparison.holds_text _ _).1]
      simp only [TextOperator.Relates, TextOperator.seen, String.toList_inj]
  | different =>
      rw [QueryBuilder.textTest, plain, plain, checked.holds_plain column, (Comparison.holds_text _ _).2]
      simp only [TextOperator.Relates, TextOperator.seen, ne_eq, String.toList_inj]
  | contains | startsWith | endsWith => exact checked.holds_part b column cell clean (by decide) short

/-- Settings that regard case are given to a builder without kinds and to a selection. Both then answer one text filter,
    the engine with the rows whose cell is related to the value in what patterns see of texts. The selection's rows
    are among them in the same order, and they are all of them exactly if case makes no difference to any cell. For
    equal and for different texts it never does. -/
theorem keeps_case_but_in_patterns (e : Engine) (settings : QuerySettings) (fields : List String) (field value : String)
    (op : TextOperator) (s : Session Unit Bool) (connected : e.connect = .ok true) (plain : e.HasPlainColumns)
    (exactly : settings.ignoreCase = false) (column : field ∈ e.dataset.sheet.header)
    (known : fields = [] ∨ field ∈ fields) (clean : NulFree value)
    (cells : ∀ cell ∈ e.dataset.sheet.cellsOf field, NulFree cell) (short : IsShort ⟨field, .text op, value⟩) :
    let filters : List Filter := [⟨field, .text op, value⟩]
    let b : QueryBuilder := QueryBuilder.configure { table := e.tableName, fields := fields, filters := filters } settings
    ∃ answer selected : Sheet,
      (s.ask e.backend b .all).1 = .ok answer
        ∧ (Selection.configure { filters := filters } settings).run e.dataset = .ok selected
        ∧ answer.header = selected.header
        ∧ (answer.rows = e.dataset.sheet.rows.filter fun cells =>
          op.Relates (op.seen (cells.getD (e.dataset.sheet.header.idxOf field) "")) (op.seen value))
        ∧ selected.rows.Sublist answer.rows
        ∧ (answer = selected ↔ ∀ cell ∈ e.dataset.sheet.cellsOf field,
          op.Relates (op.seen cell) (op.seen value) → op.Relates cell.toList value.toList)
        ∧ (op = .equals ∨ op = .different → answer = selected) := by
  intro filters b
  have checked := checked_of_connect connected
  have correct : b.checkFilter ⟨field, .text op, value⟩ = .ok () := by
    have allowed : b.checkField field = .ok () := by
      rw [QueryBuilder.checkField, if_pos]
      change (fields.isEmpty || fields.contains field) = true
      rcases known with rfl | known
      · rfl
      · simp [known]
    rw [QueryBuilder.checkFilter, allowed]
    rfl
  obtain ⟨answer, replied, header, rows⟩ := @reply_of_told e b ⟨field, .text op, value⟩ connected rfl rfl
    (plain.isPlainColumn column) correct (QueryBuilder.nulFree_literalOf clean)
    (fun cell => op.Relates (op.seen cell) (op.seen value)) inferInstance
    fun row member => Check.allHold_singleton (checked.holds_textTest_plain exactly (plain.isPlainColumn column)
      (cells _ (cell_mem_cellsOf member column)) clean short)
  obtain ⟨selected, ran, header', kept⟩ := @run_single e ⟨field, .text op, value⟩ column trivial false
  have rows' : selected.rows = e.dataset.sheet.rows.filter fun cells =>
      op.Relates (cells.getD (e.dataset.sheet.header.idxOf field) "").toList value.toList := kept
  -- What the engine sees of texts never tells related ones apart, so rows can only be too many.
  have fewer : ∀ cell : String, op.Relates cell.toList value.toList → op.Relates (op.seen cell) (op.seen value) :=
    fun cell related => TextOperator.relates_seen related
  have same : answer = selected ↔ ∀ cell ∈ e.dataset.sheet.cellsOf field,
      op.Relates (op.seen cell) (op.seen value) → op.Relates cell.toList value.toList := by
    refine (answers_eq_iff (p := fun cell => op.Relates (op.seen cell) (op.seen value))
      (q := fun cell => op.Relates cell.toList value.toList) column (header.trans header'.symm) rows rows').trans ?_
    exact forall₂_congr fun cell _ => ⟨Iff.mp, fun unchanged => ⟨unchanged, fewer cell⟩⟩
  refine ⟨answer, selected, ?_, ?_, header.trans header'.symm, rows, ?_, same, ?_⟩
  · rw [ask_backend connected, replied]
  · rw [Selection.configure, exactly, ran]
  · rw [rows, rows']
    refine List.monotone_filter_right _ fun cells related => ?_
    exact decide_eq_true (fewer _ (of_decide_eq_true related))
  · rintro (rfl | rfl) <;> exact same.2 fun _ _ related => related

/-- Departments, two of them told apart by case alone. -/
def departments : Engine where
  tableName := "cells"
  dataset := ⟨"cells", ⟨["dept"], [["Sales"], ["sales"], ["Wholesale"]], by decide⟩⟩

/-- A part that is spelled alike wherever it occurs is found in the same rows. -/
theorem keeps_case_but_in_patterns_departments :
    let settings : QuerySettings := { ignoreCase := false }
    let filters : List Filter := [⟨"dept", .text .contains, "ale"⟩]
    let b : QueryBuilder := QueryBuilder.configure { table := "cells", fields := ["dept"], filters := filters } settings
    let s : Session Unit Bool := ⟨(), none, []⟩
    ∃ answer : Sheet, (s.ask departments.backend b .all).1 = .ok answer
      ∧ (Selection.configure { filters := filters } settings).run departments.dataset = .ok answer
      ∧ answer.rows = [["Sales"], ["sales"], ["Wholesale"]] := by
  obtain ⟨answer, selected, asked, ran, _, rows, _, same, _⟩ := keeps_case_but_in_patterns departments
    { ignoreCase := false } ["dept"] "dept" "ale" .contains ⟨(), none, []⟩ rfl (by decide) rfl (by decide) (.inr (by decide))
    (by decide) (by decide) (by decide)
  obtain rfl := same.2 (by decide)
  exact ⟨answer, asked, ran, rows.trans (by decide)⟩

/-- Settings that regard case do not keep the engine from finding a part of a word that is spelled in another case. -/
theorem departments_differ :
    let settings : QuerySettings := { ignoreCase := false }
    let filters : List Filter := [⟨"dept", .text .startsWith, "sal"⟩]
    let b : QueryBuilder := QueryBuilder.configure { table := "cells", fields := ["dept"], filters := filters } settings
    let s : Session Unit Bool := ⟨(), none, []⟩
    (s.ask departments.backend b .all).1.map (·.rows) = .ok [["Sales"], ["sales"]]
      ∧ ((Selection.configure { filters := filters } settings).run departments.dataset).map (·.rows)
        = .ok [["sales"]] := by
  decide +kernel

end Sql.Engine

end Datasheet
