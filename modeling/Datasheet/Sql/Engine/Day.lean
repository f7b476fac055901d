import Datasheet.Sql.Engine.Numeral

/-! # Calendar days of the SQL engine

The engine reads moments in its own notation: a date, a time of day or both, with an optional offset, or a count
of days in one number. It answers the calendar day, in UTC if there is an offset. Days and times are counted in
milliseconds from noon of the first of January 4713 BC in the old calendar, so a time of day carries over into
the next day. A text can also ask for the moment that the engine's clock tells.
-/

namespace Datasheet.Sql

open Text

/-- A day as it is told: year, month and day of the month. -/
structure Day where
  year : Int
  month : Int
  day : Int
  deriving DecidableEq, Repr

/-- A time of day in milliseconds, and the offset in minutes. -/
structure TimeOfDay where
  milliseconds : Int
  offset : Int
  deriving DecidableEq, Repr

/-- A moment as a text tells it. -/
inductive Stamp where
  | date (day : Day)
  | moment (day : Day) (time : TimeOfDay)
  | time (time : TimeOfDay)
  | count (milliseconds : Int)
  | now
  deriving DecidableEq, Repr

namespace Stamp

def readMark? (mark : Char) : List Char → Option (List Char)
  | [] => none
  | c :: rest => if c = mark then some rest else none

def readClock? (greatestHour : Nat) (text : List Char) : Option ((Nat × Nat) × List Char) := do
  let (hour, rest) ← Decimal.fixed? 2 0 greatestHour text
  let rest ← readMark? ':' rest
  let (minute, rest) ← Decimal.fixed? 2 0 59 rest
  some ((hour, minute), rest)

/-- Reads the offset at the end of a text, in minutes. -/
def readOffset? (text : List Char) : Option Int :=
  match text.dropWhile isSpace with
  | [] => some 0
  | c :: rest =>
      if c = 'Z' ∨ c = 'z' then if rest.all isSpace then some 0 else none
      else if c = '+' ∨ c = '-' then do
        let ((hours, minutes), rest) ← readClock? 14 rest
        let size : Int := 60 * hours + minutes
        if rest.all isSpace then some (if c = '-' then -size else size) else none
      else none

/-- The sum of a fraction's digits as a whole number, and the power of ten below it, in rounded steps. -/
def fractionSteps (digits : List Char) : Extended × Extended :=
  digits.foldl
    (fun (n, scale) c =>
      (((n.mul (.ofInt 10)).add (.ofInt c.toNat)).sub (.ofInt 48), scale.mul (.ofInt 10)))
    (.ofInt 0, .ofInt 1)

def secondsWith (second : Nat) (digits : List Char) : Extended :=
  let (n, scale) := fractionSteps digits
  (Extended.ofInt second).add (n.div scale)

/-- Seconds in milliseconds, rounded. -/
def milliseconds? (seconds : Extended) : Option Int :=
  ((seconds.mul (.ofInt 1000)).add (.ofQuotient 1 2)).whole?

/-- Reads the seconds after a clock, if the text tells them. -/
def readSeconds? (text : List Char) : Option (Extended × List Char) :=
  match text with
  | ':' :: rest => do
      let (second, rest) ← Decimal.fixed? 2 0 59 rest
      match rest with
      | '.' :: c :: more =>
          if c.isDigit then
            let (digits, rest) := Decimal.digits (c :: more)
            some (secondsWith second digits, rest)
          else some (.ofInt second, rest)
      | _ => some (.ofInt second, rest)
  | _ => some (.ofInt 0, text)

/-- Reads a time of day with an optional offset, down to the end of the text. -/
def readTime? (text : List Char) : Option TimeOfDay := do
  let ((hour, minute), rest) ← readClock? 24 text
  let (seconds, rest) ← readSeconds? rest
  let offset ← readOffset? rest
  let milliseconds ← milliseconds? seconds
  some ⟨3600000 * hour + 60000 * minute + milliseconds, offset⟩

/-- Reads a date with an optional time, down to the end of the text. -/
def readDate? (text : List Char) : Option Stamp := do
  let (negative, unsigned) := match text with
    | '-' :: rest => (true, rest)
    | _ => (false, text)
  let (year, rest) ← Decimal.fixed? 4 0 9999 unsigned
  let rest ← readMark? '-' rest
  let (month, rest) ← Decimal.fixed? 2 1 12 rest
  let rest ← readMark? '-' rest
  let (day, rest) ← Decimal.fixed? 2 1 31 rest
  let told : Day := ⟨if negative then -(year : Int) else year, month, day⟩
  match rest.dropWhile fun c => isSpace c || c == 'T' with
  | [] => some (.date told)
  | clock => (readTime? clock).map (.moment told)

/-- Reads a count of days, noon to noon. -/
def readCount? (text : List Char) : Option Stamp := do
  let n := Numeral.ofText text
  let days := n.real
  let last := Extended.ofQuotient 10746969 2
  if n.isNumber && !(days.compareInt? 0 == some .lt) && days.compare? last == some .lt then
    (((days.mul (.ofInt 86400000)).add (.ofQuotient 1 2)).whole?).map .count
  else none

/-- Reads one of some words in any letter case of ASCII, which ask for the clock. -/
def readNow? (words : List String) (text : List Char) : Option Stamp :=
  if words.contains (String.ofList (text.map upperAscii)) then some .now else none

def ofText? (text : List Char) : Option Stamp :=
  (readDate? text).or (((readTime? text).map .time).or ((readNow? ["NOW"] text).or
    ((readCount? text).or (readNow? ["SUBSEC", "SUBSECOND"] text))))

end Stamp

namespace Day

def length : Int := 86400000

/-- Milliseconds from the start of the count to the start of a day; none before the count starts. -/
def start? (d : Day) : Option Int :=
  if d.year < -4713 ∨ 9999 < d.year then none
  else
    let year := if d.month ≤ 2 then d.year - 1 else d.year
    let month := if d.month ≤ 2 then d.month + 12 else d.month
    let century := year.tdiv 100
    let leap := 2 - century + century.tdiv 4
    let days := (36525 * (year + 4716)).tdiv 100 + (306001 * (month + 1)).tdiv 10000 + d.day + leap
    some (days * length - 1524 * length - 43200000)

def ofCount (milliseconds : Int) : Day :=
  let z := (milliseconds + 43200000).tdiv length
  let century := (4 * z - 7468865).tdiv 146097
  let a := z + 1 + century - century.tdiv 4
  let b := a + 1524
  let c := (100 * b - 12210).tdiv 36525
  let d := (36525 * (c % 32768)).tdiv 100
  let e := (10000 * (b - d)).tdiv 306001
  let month := if e < 14 then e - 1 else e - 13
  ⟨if 2 < month then c - 4716 else c - 4715, month, b - d - (306001 * e).tdiv 10000⟩

def inRange (milliseconds : Int) : Bool := 0 ≤ milliseconds && milliseconds ≤ 464269060799999

/-- The last digits of a number, so many of them. -/
def lastDigits (count : Nat) (n : Int) : List Char :=
  let digits := Nat.toDigits 10 (n.natAbs % Nat.pow 10 count)
  List.replicate (count - digits.length) '0' ++ digits

def text (d : Day) : String :=
  String.ofList ((if d.year < 0 then ['-'] else []) ++ lastDigits 4 d.year ++ '-' :: lastDigits 2 d.month
    ++ '-' :: lastDigits 2 d.day)

end Day

/-- What the engine's clock tells, within the days that the engine counts. The clock stands still for a query. -/
structure Clock where
  milliseconds : Int
  positive : 0 < milliseconds
  inRange : Day.inRange milliseconds = true
  deriving DecidableEq, Repr

namespace Clock

/-- The clock at the start of 1970. -/
instance : Inhabited Clock := ⟨⟨210866760000000, by decide, by decide⟩⟩

def date (clock : Clock) : String := (Day.ofCount clock.milliseconds).text

/-- The time of day down to the second. -/
def time (clock : Clock) : String :=
  let second := (clock.milliseconds + 43200000) % Day.length / 1000
  String.ofList (Day.lastDigits 2 (second / 3600) ++ ':' :: Day.lastDigits 2 (second / 60 % 60)
    ++ ':' :: Day.lastDigits 2 (second % 60))

end Clock

namespace Stamp

/-- The first of January 2000, the day of a time without a date. -/
def timeDay : Day := ⟨2000, 1, 1⟩

def count? (clock : Clock) : Stamp → Option Int
  | .date d => d.start?
  | .moment d t => d.start?.map (· + t.milliseconds - 60000 * t.offset)
  | .time t => timeDay.start?.map (· + t.milliseconds - 60000 * t.offset)
  | .count milliseconds => some milliseconds
  | .now => some clock.milliseconds

/-- The day that the text tells, if it is taken as it stands: there is no offset, and every month has it. -/
def toldDay? : Stamp → Option Day
  | .date d => if d.day ≤ 28 then some d else none
  | .moment d t => if t.offset = 0 ∧ d.day ≤ 28 then some d else none
  | _ => none

def day? (clock : Clock) (s : Stamp) : Option Day := do
  let milliseconds ← s.count? clock
  if Day.inRange milliseconds then some (s.toldDay?.getD (Day.ofCount milliseconds)) else none

end Stamp

/-- The calendar day of a value as text; missing where the value is no moment. A text is read up to its first
    NUL. -/
def Value.day (clock : Clock) (v : Value) : Value :=
  match v.text? with
  | none => .null
  | some s =>
      match (Stamp.ofText? (s.toList.takeWhile (·.toNat != 0))).bind (Stamp.day? clock) with
      | some d => .text d.text
      | none => .null

end Datasheet.Sql
