import Datasheet.Error

/-! # Sheets

A sheet is a header and rows of text cells, as many in each row as the header has names. Datasets and answers
are both sheets. Names may repeat; a name then stands for the first column that has it.
-/

namespace Datasheet

/-- A rectangle of text cells under a header. -/
@[ext]
structure Sheet where
  header : List String
  rows : List (List String)
  rectangular : ∀ row ∈ rows, row.length = header.length

/-- The first row of another length than `expected`: its position, counted from `position`, and its length. -/
def firstRagged? (expected : Nat) : Nat → List (List String) → Option (Nat × Nat)
  | _, [] => none
  | position, row :: rows =>
      if row.length = expected then firstRagged? expected (position + 1) rows
      else some (position, row.length)

theorem length_eq_of_firstRagged? {expected position : Nat} {rows : List (List String)}
    (h : firstRagged? expected position rows = none) : ∀ row ∈ rows, row.length = expected := by
  induction rows generalizing position with
  | nil => simp
  | cons row rows ih =>
      unfold firstRagged? at h
      split at h
      · next hrow =>
          intro r hr
          rcases List.mem_cons.1 hr with rfl | hr
          · exact hrow
          · exact ih h r hr
      · simp at h

theorem firstRagged?_eq_none {expected position : Nat} {rows : List (List String)}
    (h : ∀ row ∈ rows, row.length = expected) : firstRagged? expected position rows = none := by
  induction rows generalizing position with
  | nil => rfl
  | cons row rows ih =>
      rw [firstRagged?, if_pos (h row List.mem_cons_self)]
      exact ih fun r hr => h r (List.mem_cons_of_mem _ hr)

namespace Sheet

/-- A sheet with the given header and rows, or the first ragged row. -/
def ofRows (header : List String) (rows : List (List String)) : Except Error Sheet :=
  match h : firstRagged? header.length 0 rows with
  | some (row, found) => .error (.ragged row header.length found)
  | none => .ok ⟨header, rows, length_eq_of_firstRagged? h⟩

theorem ofRows_eq_ok {header : List String} {rows : List (List String)}
    (h : ∀ row ∈ rows, row.length = header.length) : ofRows header rows = .ok ⟨header, rows, h⟩ := by
  unfold ofRows
  split
  · next found => simp [firstRagged?_eq_none h] at found
  · rfl

theorem eq_of_ofRows {header : List String} {rows : List (List String)} {s : Sheet} (made : ofRows header rows = .ok s) :
    ∃ rectangular : ∀ row ∈ rows, row.length = header.length, s = ⟨header, rows, rectangular⟩ := by
  unfold ofRows at made
  split at made
  · cases made
  · next even =>
      cases made
      exact ⟨length_eq_of_firstRagged? even, rfl⟩

def blank (header : List String) : Sheet := ⟨header, [], by simp⟩

def rowCount (s : Sheet) : Nat := s.rows.length

def columnCount (s : Sheet) : Nat := s.header.length

def isEmpty (s : Sheet) : Bool := s.rows.isEmpty

/-- Position of the first column of a name. -/
def column? (s : Sheet) (name : String) : Option Nat := s.header.findIdx? (· == name)

theorem column?_eq_some {s : Sheet} {name : String} (member : name ∈ s.header) :
    s.column? name = some (s.header.idxOf name) :=
  List.findIdx?_eq_some_of_exists ⟨name, member, beq_self_eq_true name⟩

theorem column?_eq_none {s : Sheet} {name : String} (absent : name ∉ s.header) : s.column? name = none := by
  rw [column?, List.findIdx?_eq_none_iff]
  intro other member
  simp only [beq_eq_false_iff_ne]
  exact fun same => absent (same ▸ member)

/-- Cells of the column at a position, in row order; none if there is no such column. -/
def cellsAt (s : Sheet) (index : Nat) : List String := s.rows.filterMap (·[index]?)

theorem cellsAt_eq_map {s : Sheet} {index : Nat} (inside : index < s.header.length) :
    s.cellsAt index = s.rows.map (·.getD index "") := by
  have cells (rows : List (List String)) (all : ∀ row ∈ rows, index < row.length) :
      rows.filterMap (·[index]?) = rows.map (·.getD index "") := by
    induction rows with
    | nil => rfl
    | cons row rows ih =>
        obtain ⟨here, later⟩ := List.forall_mem_cons.1 all
        simp [here, ih later]
  exact cells s.rows fun row member => by rw [s.rectangular row member]; exact inside

/-- Cells of the first column of a name. -/
def cellsOf (s : Sheet) (name : String) : List String :=
  match s.column? name with
  | some index => s.cellsAt index
  | none => []

/-- The cell of a row in the first column of a name. -/
def value? (s : Sheet) (row : Nat) (name : String) : Option String := do
  let index ← s.column? name
  let cells ← s.rows[row]?
  cells[index]?

/-- The rows that satisfy `keep`. -/
def filterRows (s : Sheet) (keep : List String → Bool) : Sheet :=
  ⟨s.header, s.rows.filter keep, fun row h => s.rectangular row (List.mem_filter.1 h).1⟩

def eraseColumn (s : Sheet) (index : Nat) : Sheet :=
  ⟨s.header.eraseIdx index, s.rows.map (·.eraseIdx index), by
    intro row h
    obtain ⟨whole, hw, rfl⟩ := List.mem_map.1 h
    simp [List.length_eraseIdx, s.rectangular whole hw]⟩

/-- The rows from position `start` on, at most `count` of them. -/
def slice (s : Sheet) (start count : Nat) : Sheet :=
  ⟨s.header, (s.rows.drop start).take count, fun row h =>
    s.rectangular row (List.mem_of_mem_drop (List.mem_of_mem_take h))⟩

end Sheet

end Datasheet
