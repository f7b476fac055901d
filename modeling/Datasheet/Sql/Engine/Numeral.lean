import Datasheet.Number.Decimal
import Datasheet.Sql.Engine.Value

/-! # Numbers in texts

The engine reads a number from the start of a text and skips what follows. A whole number stays exact if it
fits in 64 bits. Any other number is taken from its first nineteen or so digits, scaled by powers of ten with
64 binary digits of precision, and rounded to the binary64 format last.
-/

namespace Datasheet.Sql

open Text

/-- A blank for the engine: a tab, a line break or a space. -/
def isSpace (c : Char) : Bool := c == ' ' || (0x09 ≤ c.toNat && c.toNat ≤ 0x0D)

/-- The numeral that a text starts with. -/
structure Numeral where
  negative : Bool
  whole : List Char
  hasPoint : Bool
  places : List Char
  /-- Sign and digits of the exponent after its letter, if there is a letter. -/
  exponent : Option (Bool × List Char)
  /-- Nothing but blanks follows. -/
  isComplete : Bool
  deriving DecidableEq, Repr

namespace Numeral

/-- The exponent at the start of a text, and what follows. -/
def splitExponent : List Char → Option (Bool × List Char) × List Char
  | [] => (none, [])
  | c :: rest =>
      if c = 'e' ∨ c = 'E' then
        let (negative, unsigned) := Decimal.sign rest
        let (digits, after) := Decimal.digits unsigned
        (some (negative, digits), after)
      else (none, c :: rest)

def ofText (text : List Char) : Numeral :=
  let (negative, unsigned) := Decimal.sign (text.dropWhile isSpace)
  let (whole, afterWhole) := Decimal.digits unsigned
  let hasPoint := afterWhole.head? == some '.'
  let (places, afterPlaces) := Decimal.fraction afterWhole
  let (exponent, rest) := splitExponent afterPlaces
  ⟨negative, whole, hasPoint, places, exponent, rest.all isSpace⟩

def hasDigits (n : Numeral) : Bool := !(n.whole.isEmpty && n.places.isEmpty)

/-- The exponent, if there is one, has a digit. -/
def hasWholeExponent (n : Numeral) : Bool := n.exponent.all fun (_, digits) => !digits.isEmpty

def isNumber (n : Numeral) : Bool := n.isComplete && n.hasDigits && n.hasWholeExponent

/-- The numeral is written with a point or an exponent, and not as a whole number. -/
def isReal (n : Numeral) : Bool :=
  n.hasDigits && (n.hasPoint || n.exponent.any fun (_, digits) => !digits.isEmpty)

def integerPart (n : Numeral) : Int :=
  let magnitude := Decimal.digitsValue 0 n.whole
  if n.negative then -(magnitude : Int) else magnitude

/-- Digits are read while the number is below this limit, so that one more digit fits in 64 bits. -/
def digitLimit : Nat := (Nat.pow 2 64 - 10) / 10

/-- Reads one digit before the point: the number so far, and how many digits were left out. -/
def readWhole (state : Nat × Int) (c : Char) : Nat × Int :=
  if state.1 < digitLimit then (10 * state.1 + Decimal.digitValue c, state.2) else (state.1, state.2 + 1)

/-- Reads one digit after the point: the number so far, and the power of ten that it counts. -/
def readPlace (state : Nat × Int) (c : Char) : Nat × Int :=
  if state.1 < digitLimit then (10 * state.1 + Decimal.digitValue c, state.2 - 1) else state

/-- Reads one digit of an exponent; beyond ten thousand it does not matter. -/
def readExponent (e : Nat) (c : Char) : Nat := if e < 10000 then 10 * e + Decimal.digitValue c else 10000

def exponentValue (n : Numeral) : Int :=
  match n.exponent with
  | none => 0
  | some (negative, digits) =>
      let e := digits.foldl readExponent 0
      if negative then -(e : Int) else e

/-- Moves powers of ten into the number while it fits in 64 bits. -/
def absorb : Nat → Nat × Int → Nat × Int
  | 0, state => state
  | fuel + 1, (s, e) =>
      if 0 < e ∧ s < (Nat.pow 2 64 - 1) / 10 then absorb fuel (10 * s, e - 1) else (s, e)

/-- Moves powers of ten out of the number while it ends in zeros. -/
def expel : Nat → Nat × Int → Nat × Int
  | 0, state => state
  | fuel + 1, (s, e) => if e < 0 ∧ s % 10 = 0 then expel fuel (s / 10, e + 1) else (s, e)

/-- The number's digits as a natural number, and the power of ten that it counts. -/
def significand (n : Numeral) : Nat × Int :=
  let (s, e) := n.places.foldl readPlace (n.whole.foldl readWhole (0, 0))
  if s = 0 then (0, 0) else expel 20 (absorb 20 (s, e + n.exponentValue))

end Numeral

/-- A number `count / 2 ^ scale` on the way to its last rounding. -/
structure Scaled where
  count : Nat
  scale : Nat
  deriving DecidableEq, Repr

namespace Scaled

/-- Binary digits that are kept on the way. -/
def precision : Nat := 64

def tenPower (power : Int) : Scaled :=
  if 0 ≤ power then ⟨Binary64.roundedTo precision (Nat.pow 10 power.toNat) 1, 0⟩
  else
    let divisor := Nat.pow 10 (-power).toNat
    let scale := divisor.log2 + precision + 1
    ⟨Binary64.roundedTo precision (Nat.pow 2 scale) divisor, scale⟩

def mul (x y : Scaled) : Scaled :=
  ⟨Binary64.roundedTo precision (x.count * y.count) 1, x.scale + y.scale⟩

/-- Multiplies by a power of ten, several times. -/
def mulTimes (power : Int) : Nat → Scaled → Scaled
  | 0, x => x
  | times + 1, x => mulTimes power times (x.mul (tenPower power))

/-- Multiplies by hundreds, tens and units of a power of ten. -/
def shift (x : Scaled) (e : Int) : Scaled :=
  let sign : Int := if e < 0 then -1 else 1
  let n := e.natAbs
  mulTimes sign (n % 10) (mulTimes (10 * sign) (n % 100 / 10) (mulTimes (100 * sign) (n / 100) x))

/-- The greatest finite number of the binary64 format, in whole units. -/
def greatest : Nat := (Nat.pow 2 53 - 1) * Nat.pow 2 971

/-- The number of the binary64 format nearest to a number; infinite above the greatest one. -/
def round (x : Scaled) : Extended :=
  if greatest * Nat.pow 2 x.scale < x.count then .infinite false else .ofQuotient x.count (Nat.pow 2 x.scale)

end Scaled

namespace Numeral

def real (n : Numeral) : Extended :=
  let (s, e) := n.significand
  let magnitude := if e = 0 then .ofInt s else ((Scaled.mk s 0).shift e).round
  if n.negative then magnitude.neg else magnitude

end Numeral

/-- A real number as a whole one, if it is zero or whole and below 2⁵¹ in size. -/
def wholeReal? (x : Extended) : Option Int :=
  match x.whole? with
  | some n => if x.compareInt? n = some .eq ∧ -Nat.pow 2 51 ≤ n ∧ n < Nat.pow 2 51 then some n else none
  | none => none

/-- A real number, or the whole number that it is. -/
def Value.ofNumber (x : Extended) : Value :=
  match wholeReal? x with
  | some n => .integer n
  | none => .real x

/-- The number that a text starts with; zero if it starts with none. -/
def Value.ofNumeral (text : String) : Value :=
  let n := Numeral.ofText text.toList
  if !n.isReal && Value.fits n.integerPart then .integer n.integerPart else Value.ofNumber n.real

/-- The number in a text that holds nothing else; any other text stays a text. -/
def Value.ofNumberText (text : String) : Value :=
  if (Numeral.ofText text.toList).isNumber then Value.ofNumeral text else .text text

end Datasheet.Sql
