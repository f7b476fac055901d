import Datasheet.Proofs.Sql.Comparing

/-! # The letter case of a value

Without regard to case a selection compares small letters of all alphabets. The engine folds ASCII letters only, on both
sides of a comparison and once more in its patterns. So it may tell two values apart that have the same small letters, and
then it answers them alike only if no cell of the column is related to one of them alone.
-/

namespace Datasheet

open Text Sql

/-- What the engine sees of a text that it compares without regard to case. Patterns see it up to its first NUL. -/
def TextOperator.seenAnyCase (op : TextOperator) (s : String) : List Char :=
  match op with
  | equals | different => s.toList.map lowerAscii
  | contains | startsWith | endsWith => (s.toList.takeWhile (·.toNat != 0)).map matched

namespace TextOperator

variable {op : TextOperator}

theorem eq_of_alike {a b : List Char} (here : op.Relates a a ↔ op.Relates a b) (there : op.Relates b a ↔ op.Relates b b) :
    a = b := by
  cases op with
  | equals => exact here.1 rfl
  | different => exact Classical.byContradiction fun differ => here.2 differ rfl
  | contains => exact List.infix_antisymm (there.2 List.infix_rfl) (here.1 List.infix_rfl)
  | startsWith => exact List.infix_antisymm (there.2 List.prefix_rfl).isInfix (here.1 List.prefix_rfl).isInfix
  | endsWith => exact List.infix_antisymm (there.2 List.suffix_rfl).isInfix (here.1 List.suffix_rfl).isInfix

end TextOperator

namespace Sql

/-! ## Capitals of patterns -/

theorem hasPatternMeaning_upperAscii (c : Char) : hasPatternMeaning (upperAscii c) = hasPatternMeaning c := by
  rw [Bool.eq_iff_iff, hasPatternMeaning_iff, hasPatternMeaning_iff, toNat_upperAscii]
  grind

theorem map_upperAscii_likePattern (value : String) :
    (likePattern value).toList.map upperAscii = escaped (value.toList.map upperAscii) := by
  rw [likePattern, String.toList_ofList]
  exact map_escaped hasPatternMeaning_upperAscii (by decide) value.toList

theorem likeHolds_seen {pattern : String} (clean : NulFree pattern) {parts : Pattern}
    (read : Pattern.ofLike? (pattern.toList.map matched) = some parts) (subject : String) :
    likeHolds pattern subject = parts.holds ((seenText subject).map lowerAscii) := by
  rw [likeHolds, seenText_matched clean, read]

namespace Check

theorem scan_congr {t : Table} {checks others : List Check} {needed : Option Nat} {rows : List Row}
    (same : ∀ row ∈ rows, allHold t row checks = allHold t row others) :
    scan t checks needed rows = scan t others needed rows := by
  induction rows generalizing needed with
  | nil =>
      rcases needed with _ | _ | needed <;> rfl
  | cons row rows ih =>
      obtain ⟨first, rest⟩ := List.forall_mem_cons.1 same
      rcases needed with _ | _ | needed
      · simp only [scan, first, ih rest]
      · rfl
      · simp only [scan, first, ih rest]

end Check

namespace Engine

variable {e : Engine} {b : QueryBuilder} {field value other : String} {op : TextOperator}

theorem seenText_raised (s : String) :
    (seenText (raised s)).map lowerAscii = (s.toList.takeWhile (·.toNat != 0)).map matched := by
  have ends (c : Char) : ((upperAscii c).toNat != 0) = (c.toNat != 0) := by
    rw [Bool.eq_iff_iff, bne_iff_ne, bne_iff_ne, toNat_upperAscii]
    split <;> omega
  rw [seenText, toList_raised, List.takeWhile_map, List.map_map, List.map_map]
  simp only [Function.comp_def, ends]
  exact List.map_congr_left fun c _ => matched_upperAscii c

theorem raised_literalOf (folded : value.toList.map lowerAscii = other.toList.map lowerAscii) :
    raised (QueryBuilder.literalOf ⟨field, .text op, value⟩) = raised (QueryBuilder.literalOf ⟨field, .text op, other⟩) := by
  have capitals := map_upperAscii_eq_iff.2 folded
  have pattern : (likePattern value).toList.map upperAscii = (likePattern other).toList.map upperAscii := by
    rw [map_upperAscii_likePattern, map_upperAscii_likePattern, capitals]
  rw [← String.toList_inj, toList_raised, toList_raised]
  cases op with
  | equals | different => exact capitals
  | contains | startsWith | endsWith => simp only [QueryBuilder.literalOf, String.toList_append, List.map_append, pattern]

/-! ## Testing a row -/

theorem holds_textTest_congr (anyCase : b.ignoreCase = true)
    (folded : value.toList.map lowerAscii = other.toList.map lowerAscii) (t : Table) (row : Row) :
    (b.textTest field value op).holds t row = (b.textTest field other op).holds t row := by
  have literal := @raised_literalOf field value other op folded
  have capitals (s : String) : b.folded (.text s) = .upper (.text s) := by rw [QueryBuilder.folded, if_pos anyCase]
  have wanted : (b.folded (.text (QueryBuilder.literalOf ⟨field, .text op, value⟩))).value t row
      = (b.folded (.text (QueryBuilder.literalOf ⟨field, .text op, other⟩))).value t row := by
    rw [capitals, capitals]
    exact congrArg Value.text literal
  have kinds : (b.folded (.text value)).isNumeric t = (b.folded (.text other)).isNumeric t := by rw [capitals, capitals]; rfl
  cases op with
  | equals | different =>
      have wanted : (b.folded (.text value)).value t row = (b.folded (.text other)).value t row := wanted
      simp only [QueryBuilder.textTest, Test.holds, wanted, kinds]
  | contains | startsWith | endsWith =>
      rw [textTest_of_part (by decide), textTest_of_part (by decide), Test.holds, Test.holds, wanted]

/-- Without regard to case, the test of a text operator is what the operator relates in what the engine sees. -/
theorem Checked.holds_textTest_anyCase (checked : e.Checked) (anyCase : b.ignoreCase = true)
    (column : e.IsPlainColumn field) (row : Row) (clean : NulFree value)
    (short : IsShort ⟨field, .text op, value⟩) : (b.textTest field value op).holds e.table row
      = .ok (decide (op.Relates (op.seenAnyCase (e.cell field row)) (op.seenAnyCase value))) := by
  have found (part : op.AsksForPart) : (b.textTest field value op).holds e.table row
      = .ok (decide (op.Relates ((seenText (raised (e.cell field row))).map lowerAscii) (value.toList.map matched))) := by
    have literal : NulFree (QueryBuilder.literalOf ⟨field, .text op, value⟩) := QueryBuilder.nulFree_literalOf clean
    obtain ⟨parts, read, found⟩ := exists_pattern part field value
    have read' := read
    rw [← matched_raised] at read'
    obtain ⟨left, right⟩ := checked.value_folded anyCase column row (QueryBuilder.literalOf ⟨field, .text op, value⟩)
    have verdict := Bool.eq_iff_iff.2 ((found ((seenText (raised (e.cell field row))).map lowerAscii)).trans
      decide_eq_true_iff.symm)
    rw [textTest_of_part part, Test.holds, left, right, matchPattern_raised (short.literal part),
      likeHolds_seen (nulFree_raised literal) read', verdict]
    generalize decide (op.Relates _ _) = holds
    cases holds <;> rfl
  cases op with
  | equals =>
      rw [QueryBuilder.textTest, checked.holds_compare_folded anyCase column, (Comparison.holds_text _ _).1]
      exact congrArg Except.ok (decide_eq_decide.2 raised_eq_iff)
  | different =>
      rw [QueryBuilder.textTest, checked.holds_compare_folded anyCase column, (Comparison.holds_text _ _).2]
      exact congrArg Except.ok (decide_eq_decide.2 (not_congr raised_eq_iff))
  | contains | startsWith | endsWith =>
      rw [found (by decide), seenText_raised]
      simp only [TextOperator.seenAnyCase, takeWhile_nulFree clean]

/-! ## Answers -/

theorem reply_of_checkFilter_eq_error {f : Filter} (alone : b.filters = [f]) {fault : GenerationFault}
    (failed : b.checkFilter f = .error fault) : e.reply b .all = .error (.generation fault) := by
  have made : b.query .all = .error fault := by
    simp [QueryBuilder.query, QueryBuilder.outline, QueryBuilder.filterTests, alone, failed, bind, Except.bind]
  simp [reply, QueryBuilder.text, made, Except.map]

theorem reply_anyCase (connected : e.connect = .ok true) (plain : e.HasPlainColumns) (table : b.table = e.tableName)
    (anyCase : b.ignoreCase = true) (column : field ∈ e.dataset.sheet.header)
    (correct : b.checkFilter ⟨field, .text op, value⟩ = .ok ()) (clean : NulFree value)
    (short : IsShort ⟨field, .text op, value⟩) :
    ∃ answer : Sheet, e.reply { b with filters := [⟨field, .text op, value⟩] } .all = .ok answer
      ∧ answer.header = e.dataset.sheet.header
      ∧ answer.rows = e.dataset.sheet.rows.filter fun cells =>
        op.Relates (op.seenAnyCase (cells.getD (e.dataset.sheet.header.idxOf field) "")) (op.seenAnyCase value) :=
  @reply_of_told e { b with filters := [⟨field, .text op, value⟩] } ⟨field, .text op, value⟩ connected table rfl
    (plain.isPlainColumn column) correct (QueryBuilder.nulFree_literalOf clean)
    (fun cell => op.Relates (op.seenAnyCase cell) (op.seenAnyCase value)) inferInstance
    fun row _ => Check.allHold_singleton
      ((checked_of_connect connected).holds_textTest_anyCase anyCase (plain.isPlainColumn column) row clean short)

/-- Values that differ in the case of ASCII letters are answered alike, also by the same error. -/
theorem reply_congr (connected : e.connect = .ok true) (plain : e.HasPlainColumns) (table : b.table = e.tableName)
    (anyCase : b.ignoreCase = true) (column : field ∈ e.dataset.sheet.header) (clean : NulFree value)
    (clean' : NulFree other) (folded : value.toList.map lowerAscii = other.toList.map lowerAscii) :
    e.reply { b with filters := [⟨field, .text op, value⟩] } .all
      = e.reply { b with filters := [⟨field, .text op, other⟩] } .all := by
  have pass (v : String) (clean : NulFree v) (correct : b.checkFilter ⟨field, .text op, v⟩ = .ok ()) :
      e.reply { b with filters := [⟨field, .text op, v⟩] } .all
        = e.plainAnswer (.rows [] none) (b.tests ⟨field, .text op, v⟩) :=
    @reply_alone e { b with filters := [⟨field, .text op, v⟩] } ⟨field, .text op, v⟩ connected table rfl
      (plain.isPlainColumn column) correct (QueryBuilder.nulFree_literalOf clean)
  have fail (v : String) {fault : GenerationFault} (failed : b.checkFilter ⟨field, .text op, v⟩ = .error fault) :
      e.reply { b with filters := [⟨field, .text op, v⟩] } .all = .error (.generation fault) :=
    @reply_of_checkFilter_eq_error e { b with filters := [⟨field, .text op, v⟩] } ⟨field, .text op, v⟩ rfl fault failed
  -- The check of a text filter is the same for all values.
  cases correct : b.checkFilter ⟨field, .text op, value⟩ with
  | error fault => rw [fail value correct, fail other correct]
  | ok =>
      have scanned : Check.scan e.table ((b.tests ⟨field, .text op, value⟩).map .test) none e.table.rows
          = Check.scan e.table ((b.tests ⟨field, .text op, other⟩).map .test) none e.table.rows := by
        refine Check.scan_congr fun row _ => ?_
        change Check.allHold e.table row [.test (b.textTest field value op)]
          = Check.allHold e.table row [.test (b.textTest field other op)]
        simp only [Check.allHold, Check.holds, holds_textTest_congr anyCase folded]
      rw [pass value clean correct, pass other clean' correct, plainAnswer, plainAnswer, if_pos (b.joinedHeight_tests _),
        if_pos (b.joinedHeight_tests _), scanned]

/-- Two values with the same small letters are given to a selection and to an engine, both without regard to case. The
    selection keeps the same rows. The engine does so if the values differ in the case of ASCII letters only. If they
    differ in other letters, it answers the same rows exactly if no cell of the column is related to one of the two
    alone in what the engine sees, which is never so where both of them are cells that the engine sees differently. -/
theorem folds_ascii_case_of_values (e : Engine) (b : QueryBuilder) (field value other : String) (op : TextOperator)
    (s : Session Unit Bool) (connected : e.connect = .ok true) (plain : e.HasPlainColumns)
    (table : b.table = e.tableName) (anyCase : b.ignoreCase = true) (column : field ∈ e.dataset.sheet.header)
    (clean : NulFree value) (clean' : NulFree other) (alike : lowercase value.toList = lowercase other.toList) :
    let selected (v : String) := Selection.run { filters := [⟨field, .text op, v⟩], ignoreCase := true } e.dataset
    let asked (v : String) := (s.ask e.backend { b with filters := [⟨field, .text op, v⟩] } .all).1
    (∃ kept, selected value = .ok kept ∧ selected other = .ok kept)
      ∧ (value.toList.map lowerAscii = other.toList.map lowerAscii → asked value = asked other)
      ∧ (b.checkFilter ⟨field, .text op, value⟩ = .ok () → IsShort ⟨field, .text op, value⟩ →
        IsShort ⟨field, .text op, other⟩ →
          (asked value = asked other ↔ ∀ cell ∈ e.dataset.sheet.cellsOf field,
            (op.Relates (op.seenAnyCase cell) (op.seenAnyCase value)
              ↔ op.Relates (op.seenAnyCase cell) (op.seenAnyCase other)))
          ∧ (value ∈ e.dataset.sheet.cellsOf field → other ∈ e.dataset.sheet.cellsOf field →
            (asked value = asked other ↔ op.seenAnyCase value = op.seenAnyCase other))) := by
  intro selected asked
  have asks (v : String) : asked v = e.reply { b with filters := [⟨field, .text op, v⟩] } .all := ask_backend connected s _ _
  refine ⟨?_, fun folded => ?_, fun correct short short' => ?_⟩
  · obtain ⟨kept, ran, header, rows⟩ := @run_single e ⟨field, .text op, value⟩ column trivial true
    obtain ⟨kept', ran', header', rows'⟩ := @run_single e ⟨field, .text op, other⟩ column trivial true
    obtain rfl : kept = kept' := by
      refine Sheet.ext (header.trans header'.symm) ?_
      simp only [rows, rows', Filter.Admits, Operator.Admits, CellTest.folded, if_true, alike]
    exact ⟨kept, ran, ran'⟩
  · rw [asks, asks]
    exact reply_congr connected plain table anyCase column clean clean' folded
  · obtain ⟨answer, replied, header, rows⟩ := reply_anyCase connected plain table anyCase column correct clean short
    obtain ⟨answer', replied', header', rows'⟩ := reply_anyCase connected plain table anyCase column
      (show b.checkFilter ⟨field, .text op, other⟩ = .ok () from correct) clean' short'
    have same : asked value = asked other ↔ ∀ cell ∈ e.dataset.sheet.cellsOf field,
        (op.Relates (op.seenAnyCase cell) (op.seenAnyCase value)
          ↔ op.Relates (op.seenAnyCase cell) (op.seenAnyCase other)) := by
      rw [asks, asks, replied, replied', Except.ok.injEq]
      exact answers_eq_iff column (header.trans header'.symm) rows rows'
    refine ⟨same, fun member member' => same.trans ⟨fun related => ?_, fun seen _ _ => by rw [seen]⟩⟩
    -- Each of the two values is a cell itself, and so is related alike to both.
    exact TextOperator.eq_of_alike (related value member) (related other member')

/-- Two cafes, one of them spelled in capitals. -/
def cafes : Engine where
  tableName := "cafes"
  dataset := ⟨"cafes", ⟨["name"], [["CAFÉ"], ["Bar"]], by decide⟩⟩

/-- The case of the first letters makes no difference to the engine, and the case of the last one does. -/
theorem folds_ascii_case_of_values_cafes :
    let s : Session Unit Bool := ⟨(), none, []⟩
    let b : QueryBuilder := { table := "cafes", fields := ["name"] }
    let asked (v : String) := (s.ask cafes.backend { b with filters := [⟨"name", .text .equals, v⟩] } .all).1
    asked "CAFÉ" = asked "cafÉ" ∧ asked "CAFÉ" ≠ asked "café" := by
  intro s b asked
  obtain ⟨_, folded, _⟩ := folds_ascii_case_of_values cafes b "name" "CAFÉ" "cafÉ" .equals s rfl (by decide) rfl rfl
    (by decide) (by decide) (by decide) (by decide +kernel)
  obtain ⟨_, _, told⟩ := folds_ascii_case_of_values cafes b "name" "CAFÉ" "café" .equals s rfl (by decide) rfl rfl
    (by decide) (by decide) (by decide) (by decide +kernel)
  refine ⟨folded (by decide), fun same => ?_⟩
  exact absurd ((told rfl (by decide) (by decide)).1.1 same) (by decide)

/-- A cafe is found under its name in capitals and not under the same name in small letters, except by a selection. -/
theorem cafe_found_in_capitals_only :
    let s : Session Unit Bool := ⟨(), none, []⟩
    let asked (v : String) := (s.ask cafes.backend
      { table := "cafes", fields := ["name"], filters := [⟨"name", .text .equals, v⟩] } .all).1.map (·.rows)
    lowercase "CAFÉ".toList = lowercase "café".toList
      ∧ asked "CAFÉ" = .ok [["CAFÉ"]] ∧ asked "café" = .ok []
      ∧ ∀ v ∈ ["CAFÉ", "café"], (Selection.run { filters := [⟨"name", .text .equals, v⟩] } cafes.dataset).map (·.rows)
        = .ok [["CAFÉ"]] := by
  decide +kernel

end Engine

end Sql

end Datasheet
