import Datasheet.Sheet

/-! # Paging

A long answer is shown page by page. Pages are counted from zero, and an answer without rows has one page. Positions
are counted in 64 bits: a product or a sum that does not fit stays at the greatest count.
-/

namespace Datasheet

/-- A count as 64 bits hold it. -/
def saturated (n : Nat) : Nat := min n (Nat.pow 2 64 - 1)

namespace Sheet

/-- Number of pages of `size` rows. -/
def pageCount (s : Sheet) (size : Nat) : Nat :=
  if size = 0 ∨ s.rows.isEmpty then 1 else (s.rows.length + size - 1) / size

/-- The position of a page's first row; behind all rows if there is none. -/
def pageStart (s : Sheet) (number size : Nat) : Nat := min (saturated (number * size)) s.rowCount

/-- The position behind a page's last row. -/
def pageStop (s : Sheet) (number size : Nat) : Nat :=
  min (saturated (s.pageStart number size + size)) s.rowCount

theorem pageStart_le_pageStop (s : Sheet) (number size : Nat) : s.pageStart number size ≤ s.pageStop number size := by
  simp only [pageStart, pageStop, saturated]
  omega

theorem pageStop_le_rowCount (s : Sheet) (number size : Nat) : s.pageStop number size ≤ s.rowCount :=
  Nat.min_le_right _ _

/-- The rows between two positions, which are in order and not behind the last row. -/
def between (s : Sheet) (start stop : Nat) (_ordered : start ≤ stop) (_inside : stop ≤ s.rowCount) : Sheet :=
  s.slice start (stop - start)

/-- The rows of one page; none past the last page. -/
def page (s : Sheet) (number size : Nat) : Sheet :=
  s.between (s.pageStart number size) (s.pageStop number size) (s.pageStart_le_pageStop number size)
    (s.pageStop_le_rowCount number size)

/-- The page that is shown when a page is asked for, counted from one: past the last page, the last one. -/
def shownPage (s : Sheet) (number size : Nat) : Nat := min number (s.pageCount size - 1) + 1

end Sheet

end Datasheet
