import Datasheet.Dataset
import Datasheet.Filter.CellTest
import Datasheet.Settings.Basic

/-! # Selections

A selection asks a dataset for the rows that pass all of its filters and for the columns that it names, all
columns if it names none. Running it leaves the dataset as it is.
-/

namespace Datasheet

/-- Filters and columns asked for. -/
structure Selection where
  filters : List Filter := []
  columns : List String := []
  /-- Texts are compared without regard to letter case. -/
  ignoreCase : Bool := true
  deriving DecidableEq, Repr

namespace Selection

/-- Adds a filter unless the selection has it. -/
def addFilter (s : Selection) (f : Filter) : Selection := { s with filters := f.addTo s.filters }

/-- Adds the filter that a draft stands for, or says why there is none and stays as it is. -/
def offer (s : Selection) (draft : Filter.Draft) : Except FilterFault Unit × Selection :=
  match Filter.parse draft.field draft.literal draft.value with
  | .ok f => (.ok (), s.addFilter f)
  | .error fault => (.error fault, s)

/-- Asks for a column unless it is asked for already. -/
def addColumn (s : Selection) (column : String) : Selection :=
  if column ∈ s.columns then s else { s with columns := s.columns ++ [column] }

/-- Takes the rule for letter case from the settings. -/
def configure (s : Selection) (settings : QuerySettings) : Selection :=
  { s with ignoreCase := settings.ignoreCase }

def clear (s : Selection) : Selection := { s with filters := [], columns := [] }

/-- The rows of a sheet that pass a filter on the first column of its name. -/
def narrow (ignoreCase : Bool) (sheet : Sheet) (f : Filter) : Except Error Sheet :=
  match sheet.column? f.field with
  | none => .error (.unknownField f.field)
  | some index =>
      match f.test ignoreCase with
      | .error fault => .error (.filter fault)
      | .ok test => .ok (sheet.filterRows fun row => row[index]?.any test.holds)

/-- Erases the columns before a position that are not asked for. The last one goes first, so that the positions
    still to come stay valid. -/
def eraseOthers (columns : List String) : Nat → Sheet → Sheet
  | 0, sheet => sheet
  | index + 1, sheet =>
      eraseOthers columns index
        (if columns.contains (sheet.header.getD index "") then sheet else sheet.eraseColumn index)

/-- The columns of a sheet that are asked for, in the sheet's order. -/
def project (columns : List String) (sheet : Sheet) : Except Error Sheet :=
  if columns.isEmpty then .ok sheet
  else
    match columns.find? fun column => !sheet.header.contains column with
    | some missing => .error (.unknownField missing)
    | none => .ok (eraseOthers columns sheet.header.length sheet)

/-- The answer of a selection: the filters one after the other, and then the columns. The answer's rows are
    checked against its header once more. -/
def run (s : Selection) (d : Dataset) : Except Error Sheet := do
  let narrowed ← s.filters.foldlM (narrow s.ignoreCase) d.sheet
  let projected ← project s.columns narrowed
  Sheet.ofRows projected.header projected.rows

end Selection

end Datasheet
