import Datasheet.Number.Extended

/-! # Values of the SQL engine

What a query computes with. Numbers come before texts, whole numbers and other numbers are compared exactly,
and nothing is comparable with the value that is missing.
-/

namespace Datasheet.Sql

/-- A value of the engine. -/
inductive Value where
  | null
  /-- A whole number of 64 bits. -/
  | integer (n : Int)
  | real (x : Extended)
  | text (s : String)
  deriving DecidableEq, Repr

namespace Value

/-- The least and the greatest whole number of the engine. -/
def leastInteger : Int := -Nat.pow 2 63

/-- The greatest whole number of the engine. -/
def greatestInteger : Int := Nat.pow 2 63 - 1

/-- The whole number fits in 64 bits. -/
def fits (n : Int) : Bool := leastInteger ≤ n && n ≤ greatestInteger

/-- A real number; a missing value where a number is undefined. -/
def ofReal : Extended → Value
  | .undefined => null
  | x => real x

/-- The text of a value; empty for the missing value. -/
def toText : Value → String
  | null => ""
  | integer n => n.repr
  | real x => String.ofList x.text
  | text s => s

/-- The text that functions see; none for the missing value. -/
def text? : Value → Option String
  | null => none
  | v => some v.toText

/-- The order of two values; none where one is missing. -/
def compare? : Value → Value → Option Ordering
  | null, _ => none
  | _, null => none
  | integer m, integer n => some (compare m n)
  | integer m, real y => (y.compareInt? m).map Ordering.swap
  | real x, integer n => x.compareInt? n
  | real x, real y => x.compare? y
  | text s, text t => some (compare s t)
  | text _, _ => some .gt
  | _, text _ => some .lt

end Value

end Datasheet.Sql
