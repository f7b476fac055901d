import Datasheet.Proofs.Sql.Answering
import Datasheet.Proofs.Sql.Patterns

/-! # Cells that count as numbers

Before a query reads the cells of a field as numbers it tests them: a cell must not be empty, and unless the field is
known to hold numbers it must look like one. The tests are told here by the characters of a cell. They answer for every
cell, so that putting them in front of other tests only takes rows away.
-/

namespace Datasheet.Sql

open Text

/-! ## The look of a number -/

/-- A character that numbers are written with. -/
def isNumberSign (c : Char) : Bool := c.isDigit || c == '.' || c == 'e' || c == 'E' || c == '+' || c == '-'

/-- What the engine sees of a text without the spaces around it. -/
def seenTrimmed (cell : String) : List Char := seenText (String.ofList (withoutSpaces cell.toList))

/-- The text has a digit and nothing but characters that numbers are written with. -/
def LooksNumeric (cell : String) : Prop :=
  (∃ c ∈ seenTrimmed cell, c.isDigit = true) ∧ ∀ c ∈ seenTrimmed cell, isNumberSign c = true

-- Read off the characters of the text: the library can also search through all characters there are.
instance (cell : String) : Decidable (LooksNumeric cell) :=
  decidable_of_iff (((seenTrimmed cell).any Char.isDigit && (seenTrimmed cell).all isNumberSign) = true) <| by
    rw [Bool.and_eq_true, List.any_eq_true, List.all_eq_true, LooksNumeric]

/-- The cell of a field counts as a number for the builder. -/
def QueryBuilder.IsNumeric (b : QueryBuilder) (field cell : String) : Prop :=
  cell ≠ "" ∧ (Dictionary.get? field b.kinds = some .number ∨ LooksNumeric cell)

instance (b : QueryBuilder) (field cell : String) : Decidable (b.IsNumeric field cell) :=
  inferInstanceAs (Decidable (cell ≠ "" ∧ (Dictionary.get? field b.kinds = some .number ∨ LooksNumeric cell)))

/-! ## Patterns with a set -/

theorem Pattern.holds_somewhere (negated : Bool) (ranges : List (Char × Char)) (text : List Char) :
    Pattern.holds [.anything, .among negated ranges, .anything] text = true
      ↔ ∃ c ∈ text, (PatternPart.among negated ranges).accepts c = true := by
  rw [Pattern.holds, anySuffix_iff]
  constructor
  · rintro ⟨_ | ⟨c, back⟩, suffix, holds⟩
    · cases holds
    · rw [Pattern.holds, Bool.and_eq_true] at holds
      · exact ⟨c, suffix.subset List.mem_cons_self, holds.1⟩
      · simp
  · rintro ⟨c, member, accepted⟩
    obtain ⟨front, back, rfl⟩ := List.append_of_mem member
    refine ⟨c :: back, List.suffix_append front _, ?_⟩
    rw [Pattern.holds, accepted, Pattern.holds_anything]
    · rfl
    · simp

theorem between_self (c d : Char) : (decide (c ≤ d) && decide (d ≤ c)) = (d == c) := by
  rw [Bool.eq_iff_iff, Bool.and_eq_true, decide_eq_true_eq, decide_eq_true_eq, beq_iff_eq, and_comm, ← le_antisymm_iff]

theorem between_digits (c : Char) : (decide ('0' ≤ c) && decide (c ≤ '9')) = c.isDigit := rfl

theorem zero_or_isDigit (c : Char) : (c == '0' || c.isDigit) = c.isDigit := by
  by_cases zero : c = '0'
  · subst zero
    rfl
  · simp [zero]

theorem globHolds_digit (s : String) : globHolds "*[0-9]*" s = true ↔ ∃ c ∈ seenText s, c.isDigit = true := by
  have read : Pattern.ofGlob? (seenText "*[0-9]*") = some [.anything, .among false [('0', '0'), ('0', '9')], .anything] := by
    decide
  have accepts (c : Char) : (PatternPart.among false [('0', '0'), ('0', '9')]).accepts c = c.isDigit := by
    simp only [PatternPart.accepts, List.any_cons, List.any_nil, between_self, between_digits, Bool.or_false,
      zero_or_isDigit, Bool.false_bne]
  rw [globHolds, read]
  simp only [Pattern.holds_somewhere, accepts]

theorem globHolds_foreign (s : String) :
    globHolds "*[^0-9.eE+-]*" s = true ↔ ∃ c ∈ seenText s, isNumberSign c = false := by
  have read : Pattern.ofGlob? (seenText "*[^0-9.eE+-]*") = some [.anything, .among true [('0', '0'), ('0', '9'), ('.', '.'),
      ('e', 'e'), ('E', 'E'), ('+', '+'), ('-', '-')], .anything] := by decide
  have accepts (c : Char) : (PatternPart.among true [('0', '0'), ('0', '9'), ('.', '.'), ('e', 'e'), ('E', 'E'),
      ('+', '+'), ('-', '-')]).accepts c = !isNumberSign c := by
    simp only [PatternPart.accepts, List.any_cons, List.any_nil, between_self, between_digits, Bool.or_false,
      ← Bool.or_assoc, zero_or_isDigit, Bool.true_bne, isNumberSign]
  rw [globHolds, read]
  simp only [Pattern.holds_somewhere, accepts, Bool.not_eq_true']

/-! ## Testing a row -/

namespace Check

theorem allHold_cons {t : Table} {row : Row} {test : Test} {rest : List Check} {verdict : Bool}
    (made : test.holds t row = .ok verdict) :
    allHold t row (.test test :: rest) = if verdict then allHold t row rest else .ok false := by
  rw [allHold, holds, made]
  rfl

end Check

namespace Engine

variable {e : Engine} {b : QueryBuilder} {field : String}

theorem Checked.holds_glob (checked : e.Checked) (column : e.IsPlainColumn field) (row : Row) (negated : Bool)
    {pattern : String} (short : pattern.utf8ByteSize ≤ patternLimit) :
    (Test.glob (.trimmed (QueryBuilder.column field)) negated pattern).holds e.table row
      = .ok (globHolds pattern (String.ofList (withoutSpaces (e.cell field row).toList)) == !negated) := by
  have subject : (Scalar.trimmed (QueryBuilder.column field)).value e.table row
      = .text (String.ofList (withoutSpaces (e.cell field row).toList)) := by
    rw [QueryBuilder.column, Scalar.value, Operand.value, checked.value_ofText column]
    rfl
  have matched : matchPattern globHolds (.text pattern) (.text (String.ofList (withoutSpaces (e.cell field row).toList)))
      = .ok (some (globHolds pattern (String.ofList (withoutSpaces (e.cell field row).toList)))) := by
    exact if_neg (Nat.not_lt.2 short)
  rw [Test.holds, subject, matched]
  rfl

/-- The guard of a field lets pass the rows whose cell counts as a number. -/
theorem Checked.allHold_guard (checked : e.Checked) (column : e.IsPlainColumn field) (row : Row) :
    Check.allHold e.table row ((b.guard field).map .test) = .ok (decide (b.IsNumeric field (e.cell field row))) := by
  rw [QueryBuilder.guard]
  split
  next number =>
      rw [checked.allHold_filled column]
      by_cases empty : e.cell field row = "" <;> simp [QueryBuilder.IsNumeric, number, Check.allHold, empty]
  next other =>
      have digit := checked.holds_glob column row false (by decide : "*[0-9]*".utf8ByteSize ≤ patternLimit)
      have foreign := checked.holds_glob column row true (by decide : "*[^0-9.eE+-]*".utf8ByteSize ≤ patternLimit)
      have looks : LooksNumeric (e.cell field row)
          ↔ globHolds "*[0-9]*" (String.ofList (withoutSpaces (e.cell field row).toList)) = true
            ∧ globHolds "*[^0-9.eE+-]*" (String.ofList (withoutSpaces (e.cell field row).toList)) = false := by
        rw [← Bool.not_eq_true, globHolds_digit, globHolds_foreign]
        simp [LooksNumeric, seenTrimmed]
      rw [checked.allHold_filled column, List.map_cons, List.map_cons, List.map_nil, Check.allHold_cons digit,
        Check.allHold_cons foreign]
      by_cases empty : e.cell field row = ""
      · simp [QueryBuilder.IsNumeric, empty]
      · have numeric : b.IsNumeric field (e.cell field row) ↔ LooksNumeric (e.cell field row) := by
          simp [QueryBuilder.IsNumeric, other, empty]
        rw [if_pos empty]
        simp only [numeric, looks]
        cases globHolds "*[0-9]*" (String.ofList (withoutSpaces (e.cell field row).toList)) <;>
          cases globHolds "*[^0-9.eE+-]*" (String.ofList (withoutSpaces (e.cell field row).toList)) <;> rfl

end Engine

end Datasheet.Sql
