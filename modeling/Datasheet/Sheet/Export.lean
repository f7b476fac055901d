import Datasheet.Delimited.Writer
import Datasheet.Sheet

/-! # Exporting sheets

A sheet is exported as delimited text: the header is the first record and every row is another one.
-/

namespace Datasheet.Sheet

/-- The records of a sheet, the header first. -/
def records (s : Sheet) : List (List (List Char)) := (s.header :: s.rows).map (·.map String.toList)

/-- The sheet as delimited text. -/
def exported (s : Sheet) : String := String.ofList (Delimited.write s.records)

end Datasheet.Sheet
