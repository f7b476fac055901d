import Datasheet.Number.Decimal

/-! # Log levels

A level has a name, and a number from 1, the gravest, to 5.
-/

namespace Datasheet.Log

open Text

/-- How grave a log entry is. -/
inductive Level where
  | error
  | warn
  | info
  | debug
  | trace
  deriving DecidableEq, Repr

namespace Level

def name : Level → String
  | error => "ERROR"
  | warn => "WARN"
  | info => "INFO"
  | debug => "DEBUG"
  | trace => "TRACE"

/-- All levels, the gravest first. -/
def all : List Level := [error, warn, info, debug, trace]

end Level

/-- A natural number below 2⁶⁴: digits with an optional plus sign. -/
def readCount? (cs : List Char) : Option Nat :=
  let digits := match cs with
    | '+' :: rest => rest
    | _ => cs
  if digits.isEmpty || digits.any (!·.isDigit) then none
  else
    let n := Decimal.digitsValue 0 digits
    if n < Nat.pow 2 64 then some n else none

/-- The level that a word names, in any letter case or by number. -/
def Level.read? (word : List Char) : Option Level :=
  let numbered := match readCount? word with
    | some (n + 1) => Level.all[n]?
    | _ => none
  numbered.or (Level.all.find? fun level => level.name.toList == word.map upperAscii)

end Datasheet.Log
