import Datasheet.Filter.Basic
import Datasheet.Text.Search

/-! # Testing cells

A filter whose value has been read is a test of single cells. A cell that is no number passes no numeric test,
and a cell that is no date passes no date test; even the operators for "not equal" ask for a number first.
-/

namespace Datasheet

open Calendar Text

/-- A test of one cell. -/
inductive CellTest where
  | number (operator : NumericOperator) (target : Binary64)
  | date (operator : DateOperator) (target : Moment)
  /-- The target is in lower case already if case is ignored. -/
  | text (operator : TextOperator) (target : List Char) (ignoreCase : Bool)

namespace NumericOperator

/-- The comparison of a cell's number with the filter's. -/
def holds : NumericOperator → Binary64 → Binary64 → Bool
  | equal, x, y => x.equals y
  | notEqual, x, y => !x.equals y
  | less, x, y => x.lessThan y
  | lessOrEqual, x, y => x.lessThan y || x.equals y
  | greater, x, y => y.lessThan x
  | greaterOrEqual, x, y => y.lessThan x || x.equals y

end NumericOperator

namespace DateOperator

def holds : DateOperator → Moment → Moment → Bool
  | before, m, n => m.isBefore n
  | after, m, n => n.isBefore m

end DateOperator

namespace TextOperator

def holds : TextOperator → List Char → List Char → Bool
  | equals, a, b => a == b
  | different, a, b => a != b
  | contains, a, b => occursIn b a
  | startsWith, a, b => b.isPrefixOf a
  | endsWith, a, b => b.isSuffixOf a

end TextOperator

namespace CellTest

def folded (ignoreCase : Bool) (cs : List Char) : List Char := if ignoreCase then lowercase cs else cs

def holds : CellTest → String → Bool
  | number operator target, cell =>
      match readNumber? cell with
      | some x => operator.holds x target
      | none => false
  | date operator target, cell =>
      match DateNotation.readFirst? DateNotation.ofCells cell with
      | some m => operator.holds m target
      | none => false
  | text operator target ignoreCase, cell => operator.holds (folded ignoreCase cell.toList) target

end CellTest

namespace Filter

def test (f : Filter) (ignoreCase : Bool) : Except FilterFault CellTest :=
  match f.operator, f.reading with
  | _, .error fault => .error fault
  | .numeric operator, .ok (.number x) => .ok (.number operator x)
  | .date operator, .ok (.date m) => .ok (.date operator m)
  | .text operator, .ok (.text s) => .ok (.text operator (CellTest.folded ignoreCase s.toList) ignoreCase)
  | _, .ok _ => .error f.unreadable

end Filter

end Datasheet
