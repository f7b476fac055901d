import Datasheet.Calendar.Date
import Datasheet.Number.Decimal
import Datasheet.Toml.Quoted
import Datasheet.Toml.Value

/-! # Numbers and moments in TOML

A whole number is decimal, or has two letters before its digits that tell another base, and fits in 64 bits. An
underscore may stand between two digits. A moment is a date, a time of day, or both with an optional offset.
-/

namespace Datasheet.Toml

open Json

/-- Reads more digits, with underscores between them. -/
def readMoreDigits (isDigit : Char → Bool) : List Char → List Char × List Char
  | [] => ([], [])
  | '_' :: c :: rest =>
      if isDigit c then
        let (digits, after) := readMoreDigits isDigit rest
        (c :: digits, after)
      else ([], '_' :: c :: rest)
  | c :: rest =>
      if isDigit c then
        let (digits, after) := readMoreDigits isDigit rest
        (c :: digits, after)
      else ([], c :: rest)

/-- Reads digits, at least one. -/
def readDigits? (isDigit : Char → Bool) : List Char → Option (List Char × List Char)
  | [] => none
  | c :: rest =>
      if isDigit c then
        let (digits, after) := readMoreDigits isDigit rest
        some (c :: digits, after)
      else none

/-- A whole number of 64 bits. -/
def integer? (n : Int) : Option Value :=
  if -Nat.pow 2 63 ≤ n ∧ n < Nat.pow 2 63 then some (.integer n) else none

/-- Reads the digits of a whole number in another base. -/
def readBased? (base : Nat) (cs : List Char) : Option (Value × List Char) := do
  let (digits, rest) ← readDigits? (fun c => (hexDigit? c).any (· < base)) cs
  let values ← digits.mapM hexDigit?
  let n ← integer? (values.foldl (fun n d => base * n + d) 0 : Nat)
  some (n, rest)

/-- Reads the digits before a point: no zero before another digit. -/
def readWhole? : List Char → Option (List Char × List Char)
  | '0' :: rest => some (['0'], rest)
  | cs => readDigits? Char.isDigit cs

def readPlaces? : List Char → Option (List Char × List Char)
  | '.' :: rest => (readDigits? Char.isDigit rest).map fun (digits, after) => ('.' :: digits, after)
  | cs => some ([], cs)

def readSign : List Char → List Char × List Char
  | '+' :: rest => (['+'], rest)
  | '-' :: rest => (['-'], rest)
  | cs => ([], cs)

def readExponent? : List Char → Option (List Char × List Char)
  | [] => some ([], [])
  | c :: rest =>
      if c = 'e' ∨ c = 'E' then do
        let (sign, unsigned) := readSign rest
        let (digits, after) ← readDigits? Char.isDigit unsigned
        some (c :: (sign ++ digits), after)
      else some ([], c :: rest)

/-- A number with a point or an exponent. Above the greatest number there is none; below the least one there is
    the infinite one. -/
def float? (spelling : List Char) : Option Value := do
  let d ← Decimal.ofText? spelling
  if d.toBinary64?.isNone && !d.negative then none else some (.float spelling)

def readDecimal? (cs : List Char) : Option (Value × List Char) := do
  let (sign, unsigned) := readSign cs
  if "inf".toList.isPrefixOf unsigned || "nan".toList.isPrefixOf unsigned then
    some (.float (sign ++ unsigned.take 3), unsigned.drop 3)
  else
    let (whole, rest) ← readWhole? unsigned
    let (places, rest) ← readPlaces? rest
    let (exponent, rest) ← readExponent? rest
    if places.isEmpty && exponent.isEmpty then
      let magnitude : Int := Decimal.digitsValue 0 whole
      let n ← integer? (if sign = ['-'] then -magnitude else magnitude)
      some (n, rest)
    else
      let x ← float? (sign ++ whole ++ places ++ exponent)
      some (x, rest)

def readNumber? : List Char → Option (Value × List Char)
  | '0' :: 'x' :: rest => readBased? 16 rest
  | '0' :: 'o' :: rest => readBased? 8 rest
  | '0' :: 'b' :: rest => readBased? 2 rest
  | cs => readDecimal? cs

def afterMark? (mark : Char) : List Char → Option (List Char)
  | [] => none
  | c :: rest => if c = mark then some rest else none

def afterClock? (cs : List Char) : Option (List Char) := do
  let (_, rest) ← Decimal.fixed? 2 0 23 cs
  let rest ← afterMark? ':' rest
  let (_, rest) ← Decimal.fixed? 2 0 59 rest
  some rest

def afterTime? (cs : List Char) : Option (List Char) := do
  let rest ← afterClock? cs
  let rest ← afterMark? ':' rest
  let (_, rest) ← Decimal.fixed? 2 0 60 rest
  match rest with
  | '.' :: c :: more => if c.isDigit then some (more.dropWhile Char.isDigit) else some rest
  | _ => some rest

def afterOffset? : List Char → Option (List Char)
  | [] => some []
  | c :: rest =>
      if c = 'Z' ∨ c = 'z' then some rest
      else if c = '+' ∨ c = '-' then afterClock? rest
      else some (c :: rest)

/-- What is left after a date that exists. -/
def afterDate? (cs : List Char) : Option (List Char) := do
  let (year, rest) ← Decimal.fixed? 4 0 9999 cs
  let rest ← afterMark? '-' rest
  let (month, rest) ← Decimal.fixed? 2 1 12 rest
  let rest ← afterMark? '-' rest
  let (day, rest) ← Decimal.fixed? 2 1 31 rest
  if day ≤ Calendar.daysInMonth year month then some rest else none

def afterDateAndTime? (cs : List Char) : Option (List Char) := do
  let rest ← afterDate? cs
  match rest with
  | c :: more =>
      if c = 'T' ∨ c = 't' ∨ c = ' ' then
        match afterTime? more with
        | some after => afterOffset? after
        | none => some rest
      else some rest
  | [] => some []

/-- A date begins here: four digits and a hyphen. -/
def startsDate (cs : List Char) : Bool := (cs.take 4).all Char.isDigit && (cs.drop 4).head? == some '-'

/-- A time of day begins here: two digits and a colon. -/
def startsTime (cs : List Char) : Bool := (cs.take 2).all Char.isDigit && (cs.drop 2).head? == some ':'

def readScalar? (cs : List Char) : Option (Value × List Char) :=
  if startsDate cs || startsTime cs then do
    let rest ← if startsDate cs then afterDateAndTime? cs else afterTime? cs
    some (.moment (cs.take (cs.length - rest.length)), rest)
  else readNumber? cs

end Datasheet.Toml
