import Datasheet.Number.Binary64

/-! # Shortest decimal text

A number is written with the fewest digits that read back as the same number, and of those with the digits
nearest to it. The text is positional: no exponent is ever written, and a whole number has no point.
-/

namespace Datasheet.Binary64

/-- Quarter steps from a number down to the middle between it and its lower neighbour. The neighbour below a
    power of two is half as far away as the one above. -/
def gapBelow (steps : Nat) : Nat :=
  let unit := Nat.pow 2 (steps.log2 - 52)
  if 1 < unit ∧ steps = Nat.pow 2 steps.log2 then unit else 2 * unit

/-- Quarter steps from a number up to the middle between it and its upper neighbour. -/
def gapAbove (steps : Nat) : Nat := 2 * Nat.pow 2 (steps.log2 - 52)

/-- The last kept binary digit is zero, so ties are rounded to this number. -/
def isEven (steps : Nat) : Bool := steps / Nat.pow 2 (steps.log2 - 52) % 2 == 0

/-- The decimal `coefficient · 10 ^ place` is read as the number with these steps. -/
def readsBack (steps coefficient : Nat) (place : Int) : Bool :=
  let decimal := 4 * coefficient * Nat.pow 10 place.toNat * one
  let scale := Nat.pow 10 (-place).toNat
  let low := (4 * steps - gapBelow steps) * scale
  let high := (4 * steps + gapAbove steps) * scale
  if isEven steps then low ≤ decimal && decimal ≤ high else low < decimal && decimal < high

/-- The coefficient of the decimal on the grid of `10 ^ place` that reads back: the neighbour below, the
    neighbour above, or the nearer of both. -/
def onGrid? (steps : Nat) (place : Int) : Option Nat :=
  let up := Nat.pow 10 place.toNat * one
  let scaled := steps * Nat.pow 10 (-place).toNat
  let below := scaled / up
  match readsBack steps below place, readsBack steps (below + 1) place with
  | true, true => some (if scaled - below * up < (below + 1) * up - scaled then below else below + 1)
  | true, false => some below
  | false, true => some (below + 1)
  | false, false => none

/-- The power of ten of a positive number's first digit, searched downwards from `start`. -/
def leadingPlace (steps : Nat) : Nat → Int → Int
  | 0, start => start
  | fuel + 1, start =>
      if Nat.pow 10 start.toNat * one ≤ steps * Nat.pow 10 (-start).toNat then start
      else leadingPlace steps fuel (start - 1)

/-- The first grid, from coarse to fine, that holds a decimal which reads back. -/
def firstGrid (steps : Nat) : Nat → Int → Nat × Int
  | 0, place => (0, place)
  | fuel + 1, place =>
      match onGrid? steps place with
      | some coefficient => (coefficient, place)
      | none => firstGrid steps fuel (place - 1)

/-- A first guess, never too small, at the power of ten of a number's first digit. -/
def leadingGuess (steps : Nat) : Int :=
  (((steps.log2 : Int) - 1073) * 30103) / 100000 + 1

/-- Coefficient and power of ten of the shortest decimal of a positive number. -/
def shortest (steps : Nat) : Nat × Int :=
  firstGrid steps 18 (leadingPlace steps 4 (leadingGuess steps))

/-- Drops zeros at the end of a row of digits read backwards, and counts them. -/
def dropZeros : List Char → Nat × List Char
  | '0' :: rest => ((dropZeros rest).1 + 1, (dropZeros rest).2)
  | cs => (0, cs)

/-- Writes `coefficient · 10 ^ place` without an exponent. -/
def positional (coefficient : Nat) (place : Int) : List Char :=
  let (zeros, kept) := dropZeros (Nat.toDigits 10 coefficient).reverse
  let digits := kept.reverse
  let place := place + zeros
  let places := (-place).toNat
  if places = 0 then digits ++ List.replicate place.toNat '0'
  else if places < digits.length then
    digits.take (digits.length - places) ++ '.' :: digits.drop (digits.length - places)
  else '0' :: '.' :: List.replicate (places - digits.length) '0' ++ digits

/-- The text of a number. Zero keeps its sign. -/
def text (x : Binary64) : List Char :=
  let digits := if x.steps = 0 then ['0'] else positional (shortest x.steps).1 (shortest x.steps).2
  if x.negative then '-' :: digits else digits

end Datasheet.Binary64
