import Datasheet.Number.Shortest

/-! # Extended numbers

Arithmetic with the numbers of the binary64 format, in which nothing fails: a result too large for the format
is infinite, and a result without a value, such as the difference of two infinities, is undefined. Each
operation rounds its exact result to the nearest number.
-/

namespace Datasheet

/-- A number of the binary64 format, an infinity, or no value. -/
inductive Extended where
  | finite (x : Binary64)
  | infinite (negative : Bool)
  | undefined
  deriving DecidableEq, Repr

namespace Extended

/-- A quotient of steps, rounded; infinite where the format overflows. -/
def ofSteps (negative : Bool) (numerator denominator : Nat) : Extended :=
  match Binary64.nearest? negative numerator denominator with
  | some x => finite x
  | none => infinite negative

def ofInt (n : Int) : Extended := ofSteps (decide (n < 0)) (n.natAbs * Binary64.one) 1

/-- The number nearest to a quotient of natural numbers. -/
def ofQuotient (numerator denominator : Nat) : Extended :=
  ofSteps false (numerator * Binary64.one) denominator

def neg : Extended → Extended
  | finite x => finite ⟨!x.negative, x.steps⟩
  | infinite negative => infinite !negative
  | undefined => undefined

/-- The sum of two numbers. A sum of zero is negative only if both numbers are. -/
def add : Extended → Extended → Extended
  | finite x, finite y =>
      let total := x.value + y.value
      if total = 0 then finite ⟨x.negative && y.negative, 0⟩
      else ofSteps (decide (total < 0)) total.natAbs 1
  | infinite a, infinite b => if a = b then infinite a else undefined
  | infinite a, finite _ => infinite a
  | finite _, infinite b => infinite b
  | _, _ => undefined

def sub (x y : Extended) : Extended := x.add y.neg

def mul : Extended → Extended → Extended
  | finite x, finite y => ofSteps (x.negative != y.negative) (x.steps * y.steps) Binary64.one
  | infinite a, finite y => if y.steps = 0 then undefined else infinite (a != y.negative)
  | finite x, infinite b => if x.steps = 0 then undefined else infinite (x.negative != b)
  | infinite a, infinite b => infinite (a != b)
  | _, _ => undefined

def div : Extended → Extended → Extended
  | finite x, finite y =>
      if y.steps = 0 then
        if x.steps = 0 then undefined else infinite (x.negative != y.negative)
      else ofSteps (x.negative != y.negative) (x.steps * Binary64.one) y.steps
  | finite x, infinite b => finite ⟨x.negative != b, 0⟩
  | infinite a, finite y => infinite (a != y.negative)
  | _, _ => undefined

/-- The first number is farther from zero; false where a value is undefined. -/
def exceeds : Extended → Extended → Bool
  | finite x, finite y => y.steps < x.steps
  | infinite _, finite _ => true
  | _, _ => false

/-- The whole part of a number, if it has one. -/
def whole? : Extended → Option Int
  | finite x => some (x.value.tdiv Binary64.one)
  | _ => none

/-- Where a number lies among the integers: before, at or after `n`; none for no value. -/
def compareInt? (x : Extended) (n : Int) : Option Ordering :=
  match x with
  | finite x => some (compare x.value (n * Binary64.one))
  | infinite negative => some (if negative then .lt else .gt)
  | undefined => none

/-- The order of two numbers; none for no value. -/
def compare? : Extended → Extended → Option Ordering
  | finite x, finite y => some (compare x.value y.value)
  | infinite a, infinite b => some (compare b a)
  | infinite a, finite _ => some (if a then .lt else .gt)
  | finite _, infinite b => some (if b then .gt else .lt)
  | _, _ => none

def text : Extended → List Char
  | finite x => x.text
  | infinite true => "-inf".toList
  | infinite false => "inf".toList
  | undefined => "NaN".toList

end Extended

end Datasheet
