import Mathlib.Data.List.Infix
import Datasheet.Filter.CellTest

/-! # What filters admit

A filter admits a cell when both its value and the cell can be read in the operator's domain and the readings
stand in the relation that the operator names. This says nothing of how a test is prepared; `holds_test` shows
that the prepared test of a filter passes exactly the cells that the filter admits.
-/

namespace Datasheet

open Calendar

/-- The relation of two numbers that an operator names. -/
def NumericOperator.Relates : NumericOperator → Binary64 → Binary64 → Prop
  | equal, x, y => x.value = y.value
  | notEqual, x, y => x.value ≠ y.value
  | less, x, y => x.value < y.value
  | lessOrEqual, x, y => x.value ≤ y.value
  | greater, x, y => y.value < x.value
  | greaterOrEqual, x, y => y.value ≤ x.value

/-- The relation of two texts that an operator names. -/
def TextOperator.Relates : TextOperator → List Char → List Char → Prop
  | equals, a, b => a = b
  | different, a, b => a ≠ b
  | contains, a, b => b <:+: a
  | startsWith, a, b => b <+: a
  | endsWith, a, b => b <:+ a

/-- The operator asks for a part of a text. -/
def TextOperator.AsksForPart (op : TextOperator) : Prop := op = contains ∨ op = startsWith ∨ op = endsWith

instance (op : TextOperator) : Decidable op.AsksForPart :=
  inferInstanceAs (Decidable (op = .contains ∨ op = .startsWith ∨ op = .endsWith))

/-- The first instant comes before the second one. -/
def Calendar.Moment.Precedes (m n : Moment) : Prop :=
  m.seconds < n.seconds ∨ m.seconds = n.seconds ∧ m.nanosecond < n.nanosecond

/-- The relation of two moments that an operator names. -/
def DateOperator.Relates : DateOperator → Moment → Moment → Prop
  | before, m, n => m.Precedes n
  | after, m, n => n.Precedes m

namespace NumericOperator

theorem holds_iff (op : NumericOperator) (x y : Binary64) : op.holds x y = true ↔ op.Relates x y := by
  cases op with
  | equal => simp [holds, Relates, Binary64.equals]
  | notEqual => simp [holds, Relates, Binary64.equals]
  | less => simp [holds, Relates, Binary64.lessThan]
  | lessOrEqual => simp [holds, Relates, Binary64.equals, Binary64.lessThan, Int.le_iff_lt_or_eq]
  | greater => simp [holds, Relates, Binary64.lessThan]
  | greaterOrEqual =>
      simp [holds, Relates, Binary64.equals, Binary64.lessThan, Int.le_iff_lt_or_eq, @eq_comm _ x.value]

instance (op : NumericOperator) (x y : Binary64) : Decidable (op.Relates x y) :=
  decidable_of_iff _ (op.holds_iff x y)

end NumericOperator

namespace TextOperator

theorem holds_iff (op : TextOperator) (a b : List Char) : op.holds a b = true ↔ op.Relates a b := by
  cases op with
  | equals => simp [holds, Relates]
  | different => simp [holds, Relates]
  | contains => exact Text.occursIn_iff
  | startsWith => exact List.isPrefixOf_iff_prefix
  | endsWith => exact List.isSuffixOf_iff_suffix

instance (op : TextOperator) (a b : List Char) : Decidable (op.Relates a b) :=
  decidable_of_iff _ (op.holds_iff a b)

end TextOperator

namespace DateOperator

theorem holds_iff (op : DateOperator) (m n : Moment) : op.holds m n = true ↔ op.Relates m n := by
  cases op with
  | before => simp [holds, Relates, Moment.isBefore, Moment.Precedes]
  | after => simp [holds, Relates, Moment.isBefore, Moment.Precedes]

instance (op : DateOperator) (m n : Moment) : Decidable (op.Relates m n) :=
  decidable_of_iff _ (op.holds_iff m n)

end DateOperator

namespace Operator

/-- A value can be read in the operator's domain. -/
def Reads (value : String) : Operator → Prop
  | numeric _ => (readNumber? value).isSome
  | text _ => True
  | date _ => (DateNotation.isoOffset.read? value).isSome

/-- A cell stands in the operator's relation to a value. A cell or a value that cannot be read stands in none. -/
def Admits (ignoreCase : Bool) (value cell : String) : Operator → Prop
  | numeric op => ∃ x ∈ readNumber? cell, ∃ y ∈ readNumber? value, op.Relates x y
  | text op => op.Relates (CellTest.folded ignoreCase cell.toList) (CellTest.folded ignoreCase value.toList)
  | date op =>
      ∃ m ∈ DateNotation.readFirst? DateNotation.ofCells cell, ∃ n ∈ DateNotation.isoOffset.read? value,
        op.Relates m n

instance (value : String) : (op : Operator) → Decidable (op.Reads value)
  | numeric _ => inferInstanceAs (Decidable ((readNumber? value).isSome = true))
  | text _ => inferInstanceAs (Decidable True)
  | date _ => inferInstanceAs (Decidable ((DateNotation.isoOffset.read? value).isSome = true))

instance (ignoreCase : Bool) (value cell : String) : (op : Operator) → Decidable (op.Admits ignoreCase value cell)
  | numeric op => inferInstanceAs (Decidable (∃ x ∈ readNumber? cell, ∃ y ∈ readNumber? value, op.Relates x y))
  | text op =>
      inferInstanceAs (Decidable
        (op.Relates (CellTest.folded ignoreCase cell.toList) (CellTest.folded ignoreCase value.toList)))
  | date op =>
      inferInstanceAs (Decidable (∃ m ∈ DateNotation.readFirst? DateNotation.ofCells cell,
        ∃ n ∈ DateNotation.isoOffset.read? value, op.Relates m n))

end Operator

namespace Filter

/-- The filter's value can be read in its operator's domain. -/
abbrev IsReadable (f : Filter) : Prop := f.operator.Reads f.value

/-- The filter holds of a cell. -/
abbrev Admits (f : Filter) (ignoreCase : Bool) (cell : String) : Prop :=
  f.operator.Admits ignoreCase f.value cell

theorem isOk_test (f : Filter) (ignoreCase : Bool) : (∃ test, f.test ignoreCase = .ok test) ↔ f.IsReadable := by
  obtain ⟨field, operator, value⟩ := f
  cases operator with
  | numeric op =>
      cases h : readNumber? value <;> simp [test, reading, IsReadable, Operator.Reads, h]
  | text op => simp [test, reading, IsReadable, Operator.Reads]
  | date op =>
      cases h : DateNotation.isoOffset.read? value <;> simp [test, reading, IsReadable, Operator.Reads, h]

theorem holds_test {f : Filter} {ignoreCase : Bool} {test : CellTest} (made : f.test ignoreCase = .ok test)
    (cell : String) : test.holds cell = true ↔ f.Admits ignoreCase cell := by
  obtain ⟨field, operator, value⟩ := f
  cases operator with
  | numeric op =>
      cases hv : readNumber? value with
      | none => simp [Filter.test, reading, hv] at made
      | some y =>
          simp only [Filter.test, reading, hv, Except.ok.injEq] at made
          subst made
          cases hc : readNumber? cell <;> simp [CellTest.holds, Admits, Operator.Admits, hc, hv, op.holds_iff]
  | text op =>
      simp only [Filter.test, reading, Except.ok.injEq] at made
      subst made
      exact op.holds_iff _ _
  | date op =>
      cases hv : DateNotation.isoOffset.read? value with
      | none => simp [Filter.test, reading, hv] at made
      | some n =>
          simp only [Filter.test, reading, hv, Except.ok.injEq] at made
          subst made
          cases hc : DateNotation.readFirst? DateNotation.ofCells cell <;>
            simp [CellTest.holds, Admits, Operator.Admits, hc, hv, op.holds_iff]

end Filter

end Datasheet
