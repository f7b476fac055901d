import Datasheet.Sheet.Paging
import Datasheet.Text.Blank
import Datasheet.Text.Width

/-! # Boxed sheets

A sheet is shown as a box drawn with plain characters. Each column is as wide as its widest line, a cell with
line feeds takes several lines, and a page is followed by a line that says which page it is.
-/

namespace Datasheet.Sheet

open Text

def cellLines (cell : String) : List (List Char) := splitWhen (· == '\n') cell.toList

/-- Terminal columns for a cell's text; even an empty cell takes one. -/
def cellWidth (cell : String) : Nat :=
  (cellLines cell).foldl (fun width line => max width (columns line)) 1

/-- Widths that hold the cells of a row and all that `widths` holds. -/
def widen (widths : List Nat) (row : List String) : List Nat :=
  widths.zipWith max (row.map cellWidth)

def widths (s : Sheet) : List Nat := s.rows.foldl widen (s.header.map cellWidth)

/-- A line of a cell with blanks around it, filled up to the column's width. -/
def padded (width : Nat) (line : List Char) : List Char :=
  ' ' :: (line ++ List.replicate (width - columns line + 1) ' ')

def boxedRow (widths : List Nat) (row : List String) : List (List Char) :=
  let cells := row.map cellLines
  let height := cells.foldl (fun height lines => max height lines.length) 0
  (List.range height).map fun index =>
    '|' :: (List.zipWith (fun width lines => padded width (lines.getD index []) ++ ['|']) widths cells).flatten

/-- A line across the box: each column's part of `fill`, with `joint` between the columns. -/
def ruler (edge fill joint : Char) (widths : List Nat) : List Char :=
  edge :: (joinWith [joint] (widths.map fun width => List.replicate (width + 2) fill) ++ [edge])

def boxLines (s : Sheet) : List (List Char) :=
  let edge := ruler '+' '-' '+' s.widths
  let parts := s.rows.map (boxedRow s.widths)
  edge :: (boxedRow s.widths s.header ++ ruler '+' '=' '=' s.widths
    :: (joinWith [ruler '|' '-' '+' s.widths] parts ++ [edge]))

def boxed (s : Sheet) : String := String.ofList (joinWith ['\n'] s.boxLines)

/-- One page as a box, and under it which page it is. -/
def boxedPage (s : Sheet) (number size : Nat) : String :=
  (s.page number size).boxed ++ "\nPage " ++ (s.shownPage number size).repr ++ " of "
    ++ (s.pageCount size).repr ++ " (" ++ s.rowCount.repr ++ " rows)"

end Datasheet.Sheet
