import Datasheet.Error
import Datasheet.Sql.Engine.Day
import Datasheet.Sql.Keyword

/-! # Tables of the SQL engine

A table has named columns of text, and rows that are numbered from one. A name in a query stands for a column in
any letter case, unless it is a keyword for a value. Where there is no such column it may stand for the number of
the row, and a name in quotes then stands for itself as a text.
-/

namespace Datasheet.Sql

/-- A row with its number. -/
structure Row where
  number : Nat
  cells : List String
  deriving DecidableEq, Repr

/-- A table of texts, and what the engine's clock tells. -/
structure Table where
  name : String
  columns : List String
  rows : List Row
  clock : Clock
  deriving DecidableEq, Repr

/-- What a name in a query stands for. -/
inductive Source where
  | column (index : Nat)
  | rowNumber
  | constant (v : Value)
  deriving DecidableEq, Repr

/-- Two names of one thing differ at most in the case of ASCII letters. -/
def sameName (a b : String) : Bool := upperWord a == upperWord b

def rowNumberWords : List String := ["ROWID", "OID", "_ROWID_"]

/-- What a keyword for a value stands for. A name in quotes is no keyword. -/
def keywordValue? (clock : Clock) (n : Name) : Option Value :=
  if n.quoted then none
  else if isKeyword "NULL" n.text then some .null
  else if isKeyword "CURRENT_DATE" n.text then some (.text clock.date)
  else if isKeyword "CURRENT_TIME" n.text then some (.text clock.time)
  else if isKeyword "CURRENT_TIMESTAMP" n.text then some (.text (clock.date ++ " " ++ clock.time))
  else none

def constantOf? (n : Name) : Option Value :=
  if n.quoted then some (.text n.text)
  else if isKeyword "TRUE" n.text then some (.integer 1)
  else if isKeyword "FALSE" n.text then some (.integer 0)
  else none

namespace Table

/-- What a name stands for; none if it stands for nothing. -/
def resolve? (t : Table) (n : Name) : Option Source :=
  match keywordValue? t.clock n with
  | some v => some (.constant v)
  | none =>
      match t.columns.findIdx? (sameName n.text) with
      | some index => some (.column index)
      | none =>
          if rowNumberWords.contains (upperWord n.text) then some .rowNumber
          else (constantOf? n).map .constant

/-- The heading of a column of an answer: a column keeps its name, and what is no column is headed as it is
    written. -/
def heading (t : Table) (n : Name) : String :=
  match t.resolve? n with
  | some (.column index) => t.columns.getD index ""
  | some .rowNumber => "rowid"
  | _ => String.ofList n.token.spelling

def value (t : Table) (row : Row) (n : Name) : Value :=
  match t.resolve? n with
  | some (.column index) => .text (row.cells.getD index "")
  | some .rowNumber => .integer row.number
  | some (.constant v) => v
  | none => .null

end Table

def Operand.value (x : Operand) (t : Table) (row : Row) : Value :=
  match x with
  | column n => t.value row n
  | text value => .text value

/-- A value after a function of its text; the missing value stays. -/
def Value.mapText (f : List Char → List Char) (v : Value) : Value :=
  match v.text? with
  | some s => .text (String.ofList (f s.toList))
  | none => .null

/-- A text without the spaces around it. -/
def withoutSpaces (cs : List Char) : List Char :=
  ((cs.dropWhile (· == ' ')).reverse.dropWhile (· == ' ')).reverse

/-- The number that a value starts with; the missing value and numbers stay. -/
def Value.decimal : Value → Value
  | .text s => .ofNumeral s
  | v => v

def Scalar.value (e : Scalar) (t : Table) (row : Row) : Value :=
  match e with
  | plain x => x.value t row
  | upper x => (x.value t row).mapText (·.map Text.upperAscii)
  | trimmed x => (x.value t row).mapText withoutSpaces
  | day x => (x.value t row).day t.clock
  | decimal x => (x.value t row).decimal

def Scalar.names : Scalar → List Name
  | plain x | upper x | trimmed x | day x | decimal x =>
      match x with
      | .column n => [n]
      | .text _ => []

/-- The expression is a number by its form: a number of a row, or a number read from a text. -/
def Scalar.isNumeric (e : Scalar) (t : Table) : Bool :=
  match e with
  | plain (.column n) => t.resolve? n == some .rowNumber
  | decimal _ => true
  | _ => false

/-- A value beside a number: a text that holds a number is taken as that number. -/
def Value.besideNumber : Value → Value
  | .text s => .ofNumberText s
  | v => v

end Datasheet.Sql
