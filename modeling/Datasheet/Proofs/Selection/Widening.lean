import Datasheet.Proofs.Selection.Operators
import Datasheet.Proofs.Text.Neighbours

/-! # Filters without regard to case

A text filter that ignores case keeps what it keeps with regard to case: texts that are equal have equal small letters. A
part of a text, however, is put in lower case by itself, and where the value has a capital sigma its neighbours in the
cell may give it another small form there. Such a row is found with regard to case and lost without it.
-/

namespace Datasheet

open Text

namespace TextOperator

/-- The operator finds a value at a place of a cell with this text in front of it and this text behind it. -/
def Places (op : TextOperator) (front back : List Char) (cell value : String) : Prop :=
  cell.toList = front ++ (value.toList ++ back)
    ∧ match op with
      | equals => front = [] ∧ back = []
      | different => False
      | contains => True
      | startsWith => front = []
      | endsWith => back = []

instance (op : TextOperator) (front back : List Char) (cell value : String) : Decidable (op.Places front back cell value) :=
  match op with
  | .equals => inferInstanceAs (Decidable (cell.toList = front ++ (value.toList ++ back) ∧ front = [] ∧ back = []))
  | .different => inferInstanceAs (Decidable (cell.toList = front ++ (value.toList ++ back) ∧ False))
  | .contains => inferInstanceAs (Decidable (cell.toList = front ++ (value.toList ++ back) ∧ True))
  | .startsWith => inferInstanceAs (Decidable (cell.toList = front ++ (value.toList ++ back) ∧ front = []))
  | .endsWith => inferInstanceAs (Decidable (cell.toList = front ++ (value.toList ++ back) ∧ back = []))

variable {op : TextOperator} {front back : List Char} {cell value : String}

/-- With regard to case, what is found stands at some place. -/
theorem relates_iff_places (positive : op ≠ .different) :
    op.Relates cell.toList value.toList ↔ ∃ front back, op.Places front back cell value := by
  cases op with
  | equals => simp [Relates, Places]
  | different => exact absurd rfl positive
  | contains => simp [Relates, Places, List.IsInfix, eq_comm]
  | startsWith => simp [Relates, Places, List.IsPrefix, eq_comm]
  | endsWith => simp [Relates, Places, List.IsSuffix, eq_comm]

theorem Places.relates_lowercase (placed : op.Places front back cell value)
    (keeps : KeepsSigmas front value.toList back) : op.Relates (lowercase cell.toList) (lowercase value.toList) := by
  obtain ⟨whole, allowed⟩ := placed
  rw [whole]
  cases op with
  | equals =>
      obtain ⟨rfl, rfl⟩ := allowed
      simp [Relates]
  | different => exact allowed.elim
  | contains => exact keeps.infix_lowercase
  | startsWith =>
      obtain rfl : front = [] := allowed
      exact lowercase_prefix_iff.2 keeps
  | endsWith =>
      obtain rfl : back = [] := allowed
      rw [List.append_nil]
      exact lowercase_suffix_iff.2 keeps

/-- A value with a fixed place is found there without regard to case only if it keeps its sigmas. Elsewhere in the cell
    it may be found all the same, in other letters. -/
theorem Places.keepsSigmas (placed : op.Places front back cell value) (fixed : op ≠ .contains)
    (related : op.Relates (lowercase cell.toList) (lowercase value.toList)) : KeepsSigmas front value.toList back := by
  obtain ⟨whole, allowed⟩ := placed
  rw [whole] at related
  cases op with
  | equals =>
      obtain ⟨rfl, rfl⟩ := allowed
      exact keepsSigmas_alone _
  | different => exact allowed.elim
  | contains => exact absurd rfl fixed
  | startsWith =>
      obtain rfl : front = [] := allowed
      exact lowercase_prefix_iff.1 related
  | endsWith =>
      obtain rfl : back = [] := allowed
      rw [List.append_nil] at related
      exact lowercase_suffix_iff.1 related

/-- Without regard to case an operator finds what it finds with regard to it, if the value has no sigma to lose. -/
theorem relates_lowercase (positive : op ≠ .different) (safe : op = .equals ∨ 'Σ' ∉ value.toList)
    (related : op.Relates cell.toList value.toList) : op.Relates (lowercase cell.toList) (lowercase value.toList) := by
  obtain ⟨front, back, placed⟩ := (relates_iff_places positive).1 related
  refine placed.relates_lowercase ?_
  rcases safe with rfl | noSigma
  · obtain ⟨_, rfl, rfl⟩ := placed
    exact keepsSigmas_alone _
  · exact keepsSigmas_of_not_mem noSigma

end TextOperator

namespace Selection

variable {s : Sheet} {field value : String} {op : TextOperator} {row : List String}

theorem mem_admitted_text {ignoreCase : Bool} (member : row ∈ s.rows) :
    row ∈ admitted s ignoreCase ⟨field, .text op, value⟩
      ↔ op.Relates (CellTest.folded ignoreCase (s.cellOf field row).toList) (CellTest.folded ignoreCase value.toList) := by
  rw [admitted, List.mem_filter, decide_eq_true_eq]
  exact and_iff_right member

/-- One text filter with regard to case and without. Texts that are different without regard to case are different with
    regard to it. What is found with regard to case is found without regard to it, if whole texts are compared or if the
    value has no capital sigma. Otherwise a row is found again wherever its cell has the value at a place at which the
    sigmas of the value keep their form; at the start or at the end of a cell the row is lost if they do not. -/
theorem ignoring_case_widens (d : Dataset) (field value : String) (op : TextOperator) (column : field ∈ d.sheet.header) :
    ∃ exact anyCase : List (List String),
      Finds d false ⟨field, .text op, value⟩ exact ∧ Finds d true ⟨field, .text op, value⟩ anyCase
        ∧ (op = .different → anyCase.Sublist exact)
        ∧ (op ≠ .different → op = .equals ∨ 'Σ' ∉ value.toList → exact.Sublist anyCase)
        ∧ (op ≠ .different → ∀ row ∈ d.sheet.rows,
          (row ∈ exact ↔ ∃ front back, op.Places front back (d.sheet.cellOf field row) value)
            ∧ ∀ front back, op.Places front back (d.sheet.cellOf field row) value →
              (KeepsSigmas front value.toList back → row ∈ anyCase)
                ∧ (op ≠ .contains → row ∈ anyCase → KeepsSigmas front value.toList back)) := by
  refine ⟨admitted d.sheet false ⟨field, .text op, value⟩, admitted d.sheet true ⟨field, .text op, value⟩,
    finds_admitted column trivial, finds_admitted column trivial, ?_, ?_, ?_⟩
  · rintro rfl
    refine List.monotone_filter_right _ fun row different => ?_
    have different : Filter.Admits ⟨field, .text .different, value⟩ true (d.sheet.cellOf field row) :=
      of_decide_eq_true different
    have still : Filter.Admits ⟨field, .text .different, value⟩ false (d.sheet.cellOf field row) :=
      fun same => different (congrArg lowercase same)
    exact decide_eq_true still
  · intro positive safe
    refine List.monotone_filter_right _ fun row related => decide_eq_true ?_
    exact TextOperator.relates_lowercase positive safe (of_decide_eq_true related)
  · intro positive row member
    refine ⟨(mem_admitted_text member).trans (TextOperator.relates_iff_places positive), fun front back placed => ?_⟩
    rw [mem_admitted_text member]
    exact ⟨placed.relates_lowercase, placed.keepsSigmas⟩

/-- Words from street signs. -/
def streetWords : Dataset where
  name := "signs"
  sheet := ⟨["word"], [["ΟΔΟΣΤΡΩΜΑ"], ["ΠΑΡΟΔΟΣ"], ["Street"]], by decide⟩

/-- A street keeps its sigma at the end of a word and is found there in any case. At the start of a longer word it is
    lost. -/
theorem ignoring_case_widens_streetWords :
    (∃ exact anyCase, Finds streetWords false ⟨"word", .text .endsWith, "ΟΔΟΣ"⟩ exact
        ∧ Finds streetWords true ⟨"word", .text .endsWith, "ΟΔΟΣ"⟩ anyCase
        ∧ ["ΠΑΡΟΔΟΣ"] ∈ exact ∧ ["ΠΑΡΟΔΟΣ"] ∈ anyCase)
      ∧ ∃ exact anyCase, Finds streetWords false ⟨"word", .text .startsWith, "ΟΔΟΣ"⟩ exact
        ∧ Finds streetWords true ⟨"word", .text .startsWith, "ΟΔΟΣ"⟩ anyCase
        ∧ ["ΟΔΟΣΤΡΩΜΑ"] ∈ exact ∧ ["ΟΔΟΣΤΡΩΜΑ"] ∉ anyCase := by
  constructor
  · obtain ⟨exact, anyCase, found, found', _, _, told⟩ :=
      ignoring_case_widens streetWords "word" "ΟΔΟΣ" .endsWith (by decide)
    obtain ⟨known, placed⟩ := told (by decide) ["ΠΑΡΟΔΟΣ"] (by decide)
    have place : TextOperator.endsWith.Places "ΠΑΡ".toList [] "ΠΑΡΟΔΟΣ" "ΟΔΟΣ" := by decide
    exact ⟨exact, anyCase, found, found', known.2 ⟨_, _, place⟩, (placed _ _ place).1 (by decide +kernel)⟩
  · obtain ⟨exact, anyCase, found, found', _, _, told⟩ :=
      ignoring_case_widens streetWords "word" "ΟΔΟΣ" .startsWith (by decide)
    obtain ⟨known, placed⟩ := told (by decide) ["ΟΔΟΣΤΡΩΜΑ"] (by decide)
    have place : TextOperator.startsWith.Places [] "ΤΡΩΜΑ".toList "ΟΔΟΣΤΡΩΜΑ" "ΟΔΟΣ" := by decide
    refine ⟨exact, anyCase, found, found', known.2 ⟨_, _, place⟩, fun kept => ?_⟩
    exact absurd ((placed _ _ place).2 (by decide) kept) (by decide +kernel)

/-- A word has the street in it with regard to case, and without regard to case it has not. -/
theorem street_lost_in_pavement :
    let f : Filter := ⟨"word", .text .contains, "ΟΔΟΣ"⟩
    (run { filters := [f], ignoreCase := false } streetWords).map (·.rows) = .ok [["ΟΔΟΣΤΡΩΜΑ"], ["ΠΑΡΟΔΟΣ"]]
      ∧ (run { filters := [f], ignoreCase := true } streetWords).map (·.rows) = .ok [["ΠΑΡΟΔΟΣ"]] := by
  decide +kernel

end Selection

end Datasheet
