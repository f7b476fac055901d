import Datasheet.Sql.Aggregate
import Datasheet.Sql.Engine.Value

/-! # Aggregation

What an aggregate answers for a row of values, in their order. Missing values do not count. Whole numbers are
summed exactly as long as the sum fits in 64 bits; other sums carry along the error of each rounding and add it
at the end.
-/

namespace Datasheet.Sql

/-- A sum in progress. -/
structure Summation where
  /-- The rounded sum. -/
  sum : Extended := .finite ⟨false, 0⟩
  /-- What rounding has lost so far. -/
  lost : Extended := .finite ⟨false, 0⟩
  /-- The exact sum as long as there is one. -/
  whole : Int := 0
  count : Nat := 0
  /-- The sum is no longer exact. -/
  rounded : Bool := false
  /-- The last whole numbers were too large for an exact sum. -/
  overflowed : Bool := false
  deriving DecidableEq, Repr

namespace Summation

/-- Adds a real number to the rounded sum. -/
def addReal (s : Summation) (x : Extended) : Summation :=
  let total := s.sum.add x
  let loss := if s.sum.exceeds x then (s.sum.sub total).add x else (x.sub total).add s.sum
  { s with sum := total, lost := s.lost.add loss }

/-- From this size on, a whole number is added in two parts, so that no digit of it is lost. -/
def splitLimit : Int := Nat.pow 2 52

def lowPart (n : Int) : Int := n.tmod 16384

/-- Adds a whole number to the rounded sum. -/
def addWhole (s : Summation) (n : Int) : Summation :=
  if n ≤ -splitLimit ∨ splitLimit ≤ n then
    (s.addReal (.ofInt (n - lowPart n))).addReal (.ofInt (lowPart n))
  else s.addReal (.ofInt n)

/-- Goes over from the exact sum to the rounded one. -/
def startRounding (s : Summation) : Summation :=
  if s.whole ≤ -splitLimit ∨ splitLimit ≤ s.whole then
    { s with sum := .ofInt (s.whole - lowPart s.whole), lost := .ofInt (lowPart s.whole), rounded := true }
  else { s with sum := .ofInt s.whole, lost := .finite ⟨false, 0⟩, rounded := true }

def step (s : Summation) : Value → Summation
  | .integer n =>
      let s := { s with count := s.count + 1 }
      if s.rounded then s.addWhole n
      else if Value.fits (s.whole + n) then { s with whole := s.whole + n }
      else { s.startRounding.addWhole n with overflowed := true }
  | .real x =>
      let s := { s with count := s.count + 1 }
      if s.rounded then { s.addReal x with overflowed := false } else s.startRounding.addReal x
  | _ => s

/-- The sum with what rounding has lost. -/
def corrected (s : Summation) : Extended := if s.lost = .undefined then s.sum else s.sum.add s.lost

/-- The sum; missing without values, and none if only whole numbers were summed and their sum does not fit. -/
def sum? (s : Summation) : Option Value :=
  if s.count = 0 then some .null
  else if !s.rounded then some (.integer s.whole)
  else if s.overflowed then none
  else some (.ofReal s.corrected)

/-- The mean; missing without values. -/
def mean (s : Summation) : Value :=
  if s.count = 0 then .null
  else .ofReal ((if s.rounded then s.corrected else .ofInt s.whole).div (.ofInt s.count))

def ofValues (values : List Value) : Summation := values.foldl step {}

end Summation

end Datasheet.Sql

namespace Datasheet.Aggregate

open Sql

/-- Of two values the one that the aggregate keeps; the first one if they are equal. -/
def better (wanted : Ordering) (best v : Value) : Value :=
  if v.compare? best = some wanted then v else best

/-- The best of a row of values; missing without values. -/
def bestOf (wanted : Ordering) : List Value → Value
  | [] => .null
  | first :: rest => rest.foldl (better wanted) first

/-- The answer of an aggregate; none if a sum of whole numbers does not fit. -/
def answer? (function : Aggregate) (values : List Value) : Option Value :=
  let present := values.filter (· != .null)
  match function with
  | .count => some (.integer present.length)
  | .max => some (bestOf .gt present)
  | .min => some (bestOf .lt present)
  | .sum => (Summation.ofValues present).sum?
  | .avg => some (Summation.ofValues present).mean

end Datasheet.Aggregate
