import Datasheet.Sheet

/-! # Datasets

A dataset is a named sheet. Once it is there, the only change to it is the removal of a column.
-/

namespace Datasheet

/-- A sheet with a name. -/
structure Dataset where
  name : String
  sheet : Sheet

/-- A column by name or by position. -/
inductive ColumnRef where
  | named (name : String)
  | at (index : Nat)
  deriving DecidableEq, Repr

namespace Dataset

/-- A dataset with the given header and rows, or the first ragged row. -/
def ofRows (name : String) (header : List String) (rows : List (List String)) : Except Error Dataset :=
  (Sheet.ofRows header rows).map (⟨name, ·⟩)

def resolve (d : Dataset) : ColumnRef → Except Error Nat
  | .named name =>
      match d.sheet.column? name with
      | some index => .ok index
      | none => .error (.unknownField name)
  | .at index =>
      if index < d.sheet.header.length then .ok index
      else .error (.unknownField ("#" ++ index.repr))

/-- Removes a column: its name, and the dataset without it. -/
def removeColumn (d : Dataset) (column : ColumnRef) : Except Error (String × Dataset) := do
  let index ← d.resolve column
  .ok (d.sheet.header.getD index "", ⟨d.name, d.sheet.eraseColumn index⟩)

end Dataset

end Datasheet
