import Datasheet.Number.Binary64
import Datasheet.Text.Blank
import Datasheet.Text.Lowercase

/-! # Decimal notation

A cell holds a number when its text, without the blanks around it, is an optional sign, digits with at most
one point among or around them, and an optional exponent. Its value is the nearest number of the binary64
format; a text whose value overflows the format holds no number.
-/

namespace Datasheet

open Text

/-- A number in decimal notation: `± coefficient · 10 ^ exponent`. -/
structure Decimal where
  negative : Bool
  coefficient : Nat
  exponent : Int
  deriving DecidableEq, Repr

namespace Decimal

def digitValue (c : Char) : Nat := c.toNat - 48

/-- The value of a row of decimal digits after the digits of `start`. -/
def digitsValue (start : Nat) (digits : List Char) : Nat :=
  digits.foldl (fun n c => 10 * n + digitValue c) start

theorem digitsValue_toDigits (n : Nat) : digitsValue 0 (Nat.toDigits 10 n) = n := by
  have chars : digitsValue 0 (Nat.toDigits 10 n) = Nat.ofDigitChars 10 (Nat.toDigits 10 n) 0 := by
    rw [digitsValue, Nat.ofDigitChars_eq_foldl]
    rfl
  rw [chars, Nat.ofDigitChars_ten_toDigits]

/-- Splits an optional sign off a text; true is minus. -/
def sign : List Char → Bool × List Char
  | '-' :: rest => (true, rest)
  | '+' :: rest => (false, rest)
  | cs => (false, cs)

/-- Splits the longest row of digits off a text. -/
def digits (cs : List Char) : List Char × List Char := cs.span Char.isDigit

/-- Reads a number of exactly `count` digits between two bounds. -/
def fixed? (count low high : Nat) (cs : List Char) : Option (Nat × List Char) :=
  let ds := cs.take count
  let n := digitsValue 0 ds
  if ds.length = count ∧ ds.all Char.isDigit ∧ low ≤ n ∧ n ≤ high then some (n, cs.drop count) else none

/-- Reads the exponent part of a notation, down to the end of the text. -/
def exponent? : List Char → Option Int
  | [] => some 0
  | c :: rest =>
      if c = 'e' ∨ c = 'E' then
        let (negative, unsigned) := sign rest
        match digits unsigned with
        | ([], _) => none
        | (ds, []) => some (if negative then -(digitsValue 0 ds : Int) else digitsValue 0 ds)
        | (_, _ :: _) => none
      else none

/-- Splits the digits after a point off a text, if it has a point there. -/
def fraction : List Char → List Char × List Char
  | '.' :: rest => digits rest
  | cs => ([], cs)

def ofText? (cs : List Char) : Option Decimal :=
  let (negative, unsigned) := sign cs
  let (whole, afterWhole) := digits unsigned
  let (places, afterPlaces) := fraction afterWhole
  if whole.isEmpty && places.isEmpty then none
  else
    (exponent? afterPlaces).map fun e =>
      ⟨negative, digitsValue (digitsValue 0 whole) places, e - places.length⟩

def digitCount (n : Nat) : Nat := (Nat.toDigits 10 n).length

/-- The nearest number of the binary64 format. Numbers of 10³¹⁰ and more overflow, and positive numbers
    below 10⁻³³⁰ are nearest to zero, so no larger power of ten is ever computed. -/
def toBinary64? (d : Decimal) : Option Binary64 :=
  let magnitude := (digitCount d.coefficient : Int) + d.exponent
  if d.coefficient = 0 then some ⟨d.negative, 0⟩
  else if 311 ≤ magnitude then none
  else if magnitude ≤ -330 then some ⟨d.negative, 0⟩
  else
    Binary64.nearest? d.negative
      (d.coefficient * Nat.pow 10 d.exponent.toNat * Binary64.one) (Nat.pow 10 (-d.exponent).toNat)

end Decimal

/-- The number that a cell or literal holds, if any. -/
def readNumber? (s : String) : Option Binary64 :=
  (Decimal.ofText? (trim s.toList)).bind Decimal.toBinary64?

end Datasheet
