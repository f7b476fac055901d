/-! # Numbers of the binary64 format

A finite number of the format is a whole number of steps of size 2⁻¹⁰⁷⁴, the smallest positive number of the
format. Counting steps makes comparison the comparison of integers, and makes every rounding a question about
natural numbers: below 2⁵³ steps each count is a number of the format, and above it the format keeps 53
binary digits.
-/

namespace Datasheet

/-- A finite number: a sign and a count of steps of 2⁻¹⁰⁷⁴. Zero has two signs. -/
structure Binary64 where
  negative : Bool
  steps : Nat
  deriving DecidableEq, Repr

namespace Binary64

def precision : Nat := 53

/-- One unit in steps: 1 = 2¹⁰⁷⁴ · 2⁻¹⁰⁷⁴. -/
def one : Nat := Nat.pow 2 1074

/-- The count of steps at which the format overflows, 2¹⁰²⁴. -/
def overflow : Nat := Nat.pow 2 2098

/-- The value in steps, with its sign. -/
def value (x : Binary64) : Int :=
  if x.negative then -(x.steps : Int) else x.steps

/-- A quotient rounded to the nearest whole number, a tie to the even one. -/
def roundedQuotient (numerator denominator : Nat) : Nat :=
  let quotient := numerator / denominator
  let rest := numerator % denominator
  if denominator < 2 * rest ∨ (2 * rest = denominator ∧ quotient % 2 = 1) then quotient + 1 else quotient

/-- The quotient `numerator / denominator` kept to `digits` binary digits, a tie to the even neighbour. -/
def roundedTo (digits numerator denominator : Nat) : Nat :=
  let unit := Nat.pow 2 ((numerator / denominator).log2 + 1 - digits)
  roundedQuotient numerator (denominator * unit) * unit

/-- The number of the format nearest to a quotient of steps; none where the format overflows. -/
def nearest? (negative : Bool) (numerator denominator : Nat) : Option Binary64 :=
  let steps := roundedTo precision numerator denominator
  if steps < overflow then some ⟨negative, steps⟩ else none

/-- Equal numbers; the two zeros are equal. -/
def equals (x y : Binary64) : Bool := x.value == y.value

def lessThan (x y : Binary64) : Bool := decide (x.value < y.value)

/-- The number's 64 bits: sign, 11 bits of exponent and 52 bits of fraction. -/
def bits (x : Binary64) : Nat :=
  let shift := x.steps.log2 - 52
  let magnitude :=
    if x.steps < Nat.pow 2 52 then x.steps
    else (shift + 1) * Nat.pow 2 52 + (x.steps / Nat.pow 2 shift - Nat.pow 2 52)
  if x.negative then Nat.pow 2 63 + magnitude else magnitude

end Binary64

end Datasheet
