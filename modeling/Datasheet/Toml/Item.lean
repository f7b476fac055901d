import Datasheet.Toml.Value

/-! # Tables under construction

The lines of a text build one table. A table can be opened by a header, by the keys of its entries, or only by
the headers of tables below it, and these three do not mix: a header opens a table once and never one that keys
have opened, and keys reach into no table that a header has opened.
-/

namespace Datasheet.Toml

/-- How a table came about. -/
inductive Origin where
  | header
  | implied
  | path
  deriving DecidableEq, Repr

/-- What a name stands for while the text is read. -/
inductive Item where
  /-- A value, to which nothing is added. -/
  | value (v : Value)
  | table (origin : Origin) (entries : List (String × Item))
  /-- An array of tables, of which the last one is under construction. -/
  | tables (elements : List (List (String × Item)))

/-- A key as a path: the names before the last one, and the last one. -/
structure Key where
  parents : List String
  name : String
  deriving DecidableEq, Repr

/-- The entries of a table under construction. -/
abbrev Entries := List (String × Item)

namespace Item

/-- Changes what a name stands for; a name that stands for nothing is added at the end. -/
def update? (name : String) (change : Option Item → Option Item) : Entries → Option Entries
  | [] => (change none).map fun item => [(name, item)]
  | (other, item) :: rest =>
      if other = name then (change (some item)).map fun changed => (name, changed) :: rest
      else (update? name change rest).map ((other, item) :: ·)

/-- Changes the last element of a list. -/
def changeLast? {α : Type} (change : α → Option α) : List α → Option (List α)
  | [] => none
  | [x] => (change x).map ([·])
  | x :: rest => (changeLast? change rest).map (x :: ·)

def put? (name : String) (v : Value) : List String → Entries → Option Entries
  | [], entries =>
      update? name (fun
        | none => some (.value v)
        | some _ => none) entries
  | parent :: parents, entries =>
      update? parent (fun
        | none => (put? name v parents []).map (.table .path)
        | some (.table .path inner) => (put? name v parents inner).map (.table .path)
        | some (.table .implied inner) =>
            if parents.isEmpty then none else (put? name v parents inner).map (.table .implied)
        | some (.tables elements) =>
            if parents.isEmpty then none else (changeLast? (put? name v parents) elements).map .tables
        | some _ => none) entries

/-- Reaches the table that a header's path leads to. -/
def reach? (change : Entries → Option Entries) : List String → Entries → Option Entries
  | [], entries => change entries
  | parent :: parents, entries =>
      update? parent (fun
        | none => (reach? change parents []).map (.table .implied)
        | some (.table origin inner) => (reach? change parents inner).map (.table origin)
        | some (.tables elements) => (changeLast? (reach? change parents) elements).map .tables
        | some (.value _) => none) entries

def openTable? (name : String) (fill : Entries → Option Entries) (entries : Entries) : Option Entries :=
  update? name (fun
    | none => (fill []).map (.table .header)
    | some (.table .implied inner) => (fill inner).map (.table .header)
    | some _ => none) entries

def openElement? (name : String) (fill : Entries → Option Entries) (entries : Entries) : Option Entries :=
  update? name (fun
    | none => (fill []).map fun element => .tables [element]
    | some (.tables elements) => (fill []).map fun element => .tables (elements ++ [element])
    | some _ => none) entries

mutual

def finished : Item → Value
  | .value v => v
  | .table _ entries => .table (finishedEntries entries)
  | .tables elements => .array (finishedElements elements)

def finishedEntries : List (String × Item) → List (String × Value)
  | [] => []
  | (name, item) :: rest => (name, finished item) :: finishedEntries rest

def finishedElements : List (List (String × Item)) → List Value
  | [] => []
  | entries :: rest => .table (finishedEntries entries) :: finishedElements rest

end

end Item

end Datasheet.Toml
