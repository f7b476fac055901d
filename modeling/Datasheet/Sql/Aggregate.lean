import Datasheet.Text.Blank
import Datasheet.Text.Lowercase

/-! # Aggregates

The functions that answer one value for the numbers of a column.
-/

namespace Datasheet

open Text

/-- A function over the numbers of a column. -/
inductive Aggregate where
  | avg
  | sum
  | max
  | min
  | count
  deriving DecidableEq, Repr

namespace Aggregate

/-- The aggregate's name, also in queries. -/
def name : Aggregate → String
  | avg => "avg"
  | sum => "sum"
  | max => "max"
  | min => "min"
  | count => "count"

def byName : List (String × Aggregate) :=
  [("avg", avg), ("average", avg), ("mean", avg), ("sum", sum), ("max", max), ("maximum", max),
   ("min", min), ("minimum", min), ("count", count)]

def read? (word : String) : Option Aggregate :=
  byName.lookup (String.ofList (lowercase (trim word.toList)))

/-- The aggregate picks one of the values, so that it has rows of its own. -/
def isExtreme : Aggregate → Bool
  | max => true
  | min => true
  | _ => false

end Aggregate

end Datasheet
