import Datasheet.Calendar.Moment
import Datasheet.Number.Decimal

/-! # Notations of a moment

Two families of notations are read. ISO-8601 date-times carry an offset; the legacy notation
`dd/MM/yyyy hh:mm:ss a` has a twelve-hour clock and is taken as UTC. A moment is always written in ISO-8601,
with its offset and as many groups of three decimal places as its fraction needs.
-/

namespace Datasheet.Calendar

open Text

/-- Reads between `least` and `most` digits. -/
def readDigits (least most : Nat) (cs : List Char) : Option (Nat × List Char) :=
  let digits := (cs.take most).takeWhile Char.isDigit
  if digits.length < least then none
  else some (Decimal.digitsValue 0 digits, cs.drop digits.length)

def readMark (mark : Char) : List Char → Option (List Char)
  | c :: rest => if c = mark then some rest else none
  | [] => none

def readPadded (cs : List Char) : Option (Nat × List Char) := readDigits 1 2 (trimStart cs)

/-- Reads a year after any blanks: up to four digits, or any number of digits after a sign. -/
def readYear (cs : List Char) : Option (Int × List Char) :=
  match trimStart cs with
  | '-' :: rest => (readDigits 1 rest.length rest).map fun (n, after) => (-(n : Int), after)
  | '+' :: rest => (readDigits 1 rest.length rest).map fun (n, after) => ((n : Int), after)
  | unsigned => (readDigits 1 4 unsigned).map fun (n, after) => ((n : Int), after)

/-- Reads the sign of an offset; true is west of Greenwich. The minus sign may be the typographic one. -/
def readOffsetSign : List Char → Option (Bool × List Char)
  | c :: rest =>
      if c = '+' then some (false, rest)
      else if c = '-' ∨ c = Char.ofNat 0x2212 then some (true, rest)
      else none
  | [] => none

/-- Reads an offset of hours and minutes, with `separator` reading what stands between them. -/
def readOffset (separator : List Char → Option (List Char)) (cs : List Char) :
    Option (Int × List Char) := do
  let (west, afterSign) ← readOffsetSign cs
  let (hours, afterHours) ← readDigits 2 2 afterSign
  let beforeMinutes ← separator afterHours
  let (minutes, rest) ← readDigits 2 2 beforeMinutes
  if 60 ≤ minutes then none
  else
    let offset : Int := 60 * hours + minutes
    some (if west then -offset else offset, rest)

/-- An offset that may be the letter Z, and otherwise has a colon. -/
def readStrictOffset : List Char → Option (Int × List Char)
  | 'Z' :: rest => some (0, rest)
  | 'z' :: rest => some (0, rest)
  | cs => readOffset (readMark ':') cs

/-- An offset with any colons and blanks, or none, between hours and minutes. -/
def readLooseOffset (cs : List Char) : Option (Int × List Char) :=
  readOffset (fun s => some (s.dropWhile fun c => c == ':' || isBlank c)) (trimStart cs)

/-- Reads a decimal fraction of a second in nanoseconds; digits after the ninth are dropped. -/
def readFraction : List Char → Option (Nat × List Char)
  | '.' :: rest =>
      let digits := rest.takeWhile Char.isDigit
      if digits.isEmpty then none
      else
        let kept := digits.take 9
        some (Decimal.digitsValue 0 kept * Nat.pow 10 (9 - kept.length), rest.drop digits.length)
  | cs => some (0, cs)

/-- A full ISO-8601 date-time: fixed widths, seconds with an optional fraction, and `T` or a space between
    date and time. -/
def readFull (cs : List Char) : Option Moment := do
  let (year, cs) ← readDigits 4 4 cs
  let cs ← readMark '-' cs
  let (month, cs) ← readDigits 2 2 cs
  let cs ← readMark '-' cs
  let (day, cs) ← readDigits 2 2 cs
  let cs ← match cs with
    | c :: rest => if c = 'T' ∨ c = 't' ∨ c = ' ' then some rest else none
    | [] => none
  let (hour, cs) ← readDigits 2 2 cs
  let cs ← readMark ':' cs
  let (minute, cs) ← readDigits 2 2 cs
  let cs ← readMark ':' cs
  let (second, cs) ← readDigits 2 2 cs
  let (nanosecond, cs) ← readFraction cs
  let (offset, cs) ← readStrictOffset cs
  if cs.isEmpty then Moment.make? ⟨year, month, day⟩ hour minute second nanosecond offset else none

/-- The part of an ISO-8601 date-time that ends with the minutes. -/
def readMinutes (cs : List Char) : Option (Date × Nat × Nat × List Char) := do
  let (year, cs) ← readYear cs
  let cs ← readMark '-' cs
  let (month, cs) ← readPadded cs
  let cs ← readMark '-' cs
  let (day, cs) ← readPadded cs
  let cs ← readMark 'T' cs
  let (hour, cs) ← readPadded cs
  let cs ← readMark ':' cs
  let (minute, cs) ← readPadded cs
  some (⟨year, month, day⟩, hour, minute, cs)

/-- An ISO-8601 date-time without seconds, with an offset. -/
def readMinutesWithOffset (cs : List Char) : Option Moment := do
  let (date, hour, minute, cs) ← readMinutes cs
  let (offset, cs) ← readLooseOffset cs
  if cs.isEmpty then Moment.make? date hour minute 0 0 offset else none

/-- An ISO-8601 date-time without seconds, with the letter Z. -/
def readMinutesWithZ (cs : List Char) : Option Moment := do
  let (date, hour, minute, cs) ← readMinutes cs
  if cs = ['Z'] then Moment.make? date hour minute 0 0 0 else none

/-- Reads the half of the day; true is the afternoon. -/
def readHalf : List Char → Option (Bool × List Char)
  | a :: m :: rest =>
      if m = 'M' ∨ m = 'm' then
        if a = 'A' ∨ a = 'a' then some (false, rest)
        else if a = 'P' ∨ a = 'p' then some (true, rest)
        else none
      else none
  | _ => none

/-- The legacy notation, in UTC. -/
def readLegacy (cs : List Char) : Option Moment := do
  let (day, cs) ← readPadded cs
  let cs ← readMark '/' cs
  let (month, cs) ← readPadded cs
  let cs ← readMark '/' cs
  let (year, cs) ← readYear cs
  let (hour, cs) ← readPadded cs
  let cs ← readMark ':' cs
  let (minute, cs) ← readPadded cs
  let cs ← readMark ':' cs
  let (second, cs) ← readPadded cs
  let (afternoon, cs) ← readHalf (trimStart cs)
  if cs.isEmpty && decide (1 ≤ hour) && decide (hour ≤ 12) then
    Moment.make? ⟨year, month, day⟩ (hour % 12 + if afternoon then 12 else 0) minute second 0 0
  else none

end Calendar

open Calendar Text

/-- A family of notations. -/
inductive DateNotation where
  /-- ISO-8601 with an offset: `2021-01-01T00:00:00+00:00`, `2021-01-01T00:00Z`. -/
  | isoOffset
  /-- `31/12/2021 11:30:00 PM`, in UTC. -/
  | legacy
  deriving DecidableEq, Repr

namespace DateNotation

/-- Reads a moment from a text without the blanks around it. -/
def read? (form : DateNotation) (s : String) : Option Moment :=
  let cs := trim s.toList
  match form with
  | isoOffset => (readFull cs).or ((readMinutesWithOffset cs).or (readMinutesWithZ cs))
  | legacy => readLegacy cs

/-- The notations a cell may use, in the order in which they are tried. -/
def ofCells : List DateNotation := [isoOffset, legacy]

/-- Reads with the first notation that accepts the text. -/
def readFirst? (notations : List DateNotation) (s : String) : Option Moment :=
  notations.findSome? (·.read? s)

end DateNotation

namespace Calendar

/-- A number with at least `width` digits. -/
def padded (width n : Nat) : List Char :=
  let digits := Nat.toDigits 10 n
  List.replicate (width - digits.length) '0' ++ digits

/-- A year: four digits from 0 to 9999, and outside of them a sign and at least four digits. -/
def yearText (year : Int) : List Char :=
  if 0 ≤ year ∧ year ≤ 9999 then padded 4 year.toNat
  else (if year < 0 then '-' else '+') :: padded 4 year.natAbs

/-- The fraction of a second in nanoseconds: nothing, or three, six or nine places. -/
def fractionText (nanosecond : Nat) : List Char :=
  if nanosecond = 0 then []
  else if nanosecond % 1000000 = 0 then '.' :: padded 3 (nanosecond / 1000000)
  else if nanosecond % 1000 = 0 then '.' :: padded 6 (nanosecond / 1000)
  else '.' :: padded 9 nanosecond

def offsetText (offset : Int) : List Char :=
  (if offset < 0 then '-' else '+')
    :: (padded 2 (offset.natAbs / 60) ++ ':' :: padded 2 (offset.natAbs % 60))

/-- A day as year, month and day of the month. -/
def Date.text (d : Date) : List Char :=
  yearText d.year ++ '-' :: (padded 2 d.month ++ '-' :: padded 2 d.day)

/-- A moment in ISO-8601 with its offset. A leap second is written as second 60. -/
def Moment.text (m : Moment) : List Char :=
  let leap := 1000000000 ≤ m.nanosecond
  m.date.text ++ 'T' :: (padded 2 m.hour ++ ':' :: (padded 2 m.minute ++ ':'
    :: (padded 2 (if leap then m.second + 1 else m.second)
      ++ fractionText (if leap then m.nanosecond - 1000000000 else m.nanosecond)
      ++ offsetText m.offset)))

def Moment.iso (m : Moment) : String := String.ofList m.text

end Calendar

open Calendar

/-- The text is an ISO-8601 date-time with an offset. -/
def isIsoMoment (s : String) : Bool := (DateNotation.isoOffset.read? s).isSome

/-- The moment of a cell, written in ISO-8601. -/
def normalizeDate? (s : String) : Option String :=
  (DateNotation.readFirst? DateNotation.ofCells s).map Moment.iso

end Datasheet
