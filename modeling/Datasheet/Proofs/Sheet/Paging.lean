import Mathlib.Data.String.Basic
import Datasheet.Sheet.Paging

/-! # Pages of a sheet

The pages of a sheet are its rows cut into equal parts, with what is left on the last one. As long as the rows can be
counted in 64 bits, it makes no difference that the positions of a page are counted so.
-/

namespace Datasheet

theorem saturated_eq (n : Nat) : saturated n = min n (2 ^ 64 - 1) := rfl

theorem flatMap_parts {α : Type} (rows : List α) (size count : Nat) :
    (List.range count).flatMap (fun number => (rows.drop (number * size)).take size) = rows.take (count * size) := by
  induction count with
  | zero => simp
  | succ count ih =>
      rw [List.range_succ, List.flatMap_append, ih, Nat.succ_mul, List.take_add]
      simp

namespace Sheet

variable {s : Sheet} {number size : Nat}

/-! ## Positions -/

theorem rows_slice (s : Sheet) (start count : Nat) : (s.slice start count).rows = (s.rows.drop start).take count := rfl

theorem ofRows_slice {header : List String} {rows : List (List String)} (made : ofRows header rows = .ok s)
    (start count : Nat) : ofRows header ((rows.drop start).take count) = .ok (s.slice start count) := by
  obtain ⟨rectangular, rfl⟩ := eq_of_ofRows made
  exact ofRows_eq_ok (Sheet.rectangular (slice ⟨header, rows, rectangular⟩ start count))

theorem rows_page (s : Sheet) (number size : Nat) :
    (s.page number size).rows = (s.rows.take (s.pageStop number size)).drop (s.pageStart number size) :=
  (List.drop_take ..).symm

/-- A page is where it would be without a greatest count, if the rows or the page end before that count. -/
theorem page_eq_slice (fits : min s.rowCount (number * size + size) < 2 ^ 64) :
    s.page number size = s.slice (number * size) size := by
  have start : s.pageStart number size = min (number * size) s.rows.length := by
    simp only [pageStart, saturated_eq, rowCount] at fits ⊢
    omega
  have stop : s.pageStop number size = min (number * size + size) s.rows.length := by
    simp only [pageStop, start, saturated_eq, rowCount] at fits ⊢
    omega
  refine Sheet.ext rfl ?_
  rw [rows_page, rows_slice, start, stop, ← List.take_eq_take_min, List.drop_take]
  rcases Nat.le_total (number * size) s.rows.length with inside | behind
  · rw [Nat.min_eq_left inside, Nat.add_sub_cancel_left]
  · rw [List.drop_eq_nil_of_le (by omega), List.drop_eq_nil_of_le behind]
    simp

/-! ## Numbers -/

/-- A number is that of a page exactly if a row stands at the page's first position. -/
theorem lt_pageCount_iff (sized : 0 < size) (filled : s.rows ≠ []) :
    number < s.pageCount size ↔ number * size < s.rowCount := by
  have noEmpty : ¬(size = 0 ∨ s.rows.isEmpty = true) := by simp [sized.ne', filled]
  rw [pageCount, if_neg noEmpty, Nat.lt_iff_add_one_le, Nat.le_div_iff_mul_le sized, Nat.succ_mul, rowCount]
  omega

theorem pageCount_pos (s : Sheet) (sized : 0 < size) : 0 < s.pageCount size := by
  by_cases filled : s.rows = []
  · simp [pageCount, filled]
  · rw [lt_pageCount_iff sized filled, Nat.zero_mul]
    exact List.length_pos_iff.2 filled

theorem rowCount_le_pageCount_mul (s : Sheet) (sized : 0 < size) : s.rowCount ≤ s.pageCount size * size := by
  by_cases filled : s.rows = []
  · simp [rowCount, filled]
  · exact Nat.not_lt.1 (mt (lt_pageCount_iff sized filled).2 (Nat.lt_irrefl _))

/-! ## Rows -/

theorem rowCount_page (fits : s.rowCount < 2 ^ 64) (sized : 0 < size) (later : number + 1 < s.pageCount size) :
    (s.page number size).rowCount = size := by
  have filled : s.rows ≠ [] := by
    intro rowless
    simp [pageCount, rowless] at later
  have next := (lt_pageCount_iff sized filled).1 later
  rw [Nat.succ_mul, rowCount] at next
  rw [page_eq_slice (by omega), rowCount, rows_slice, List.length_take, List.length_drop]
  omega

theorem rows_page_ne_nil (fits : s.rowCount < 2 ^ 64) (sized : 0 < size) (filled : s.rows ≠ [])
    (known : number < s.pageCount size) : (s.page number size).rows ≠ [] := by
  have inside := (lt_pageCount_iff sized filled).1 known
  rw [rowCount] at inside
  rw [page_eq_slice (by omega), rows_slice, ← List.length_pos_iff, List.length_take, List.length_drop]
  omega

theorem rows_page_eq_nil (fits : s.rowCount < 2 ^ 64) (sized : 0 < size) (behind : s.pageCount size ≤ number) :
    (s.page number size).rows = [] := by
  have reached : s.rows.length ≤ number * size :=
    Nat.le_trans (s.rowCount_le_pageCount_mul sized) (Nat.mul_le_mul_right size behind)
  rw [page_eq_slice (by omega), rows_slice, List.drop_eq_nil_of_le reached, List.take_nil]

/-- The pages of a sheet are its rows, each of them once and in order. All pages but the last one are full, and the last
    one is not empty unless the sheet is. Of every number, also of one that no page has, the positions are in order
    and not behind the last row, and what stands between them is under the sheet's header: nothing behind the last
    page. -/
theorem pages_partition (s : Sheet) (size : Nat) (fits : s.rowCount < 2 ^ 64) (sized : 0 < size) :
    (List.range (s.pageCount size)).flatMap (fun number => (s.page number size).rows) = s.rows
    ∧ (∀ number, number + 1 < s.pageCount size → (s.page number size).rowCount = size)
    ∧ (s.rows ≠ [] → (s.page (s.pageCount size - 1) size).rows ≠ [])
    ∧ ∀ number, (s.pageStart number size ≤ s.pageStop number size ∧ s.pageStop number size ≤ s.rowCount)
      ∧ (s.page number size).rows = (s.rows.take (s.pageStop number size)).drop (s.pageStart number size)
      ∧ (s.page number size).header = s.header
      ∧ (s.pageCount size ≤ number → (s.page number size).rows = []) := by
  have last : s.pageCount size - 1 < s.pageCount size := Nat.sub_one_lt (s.pageCount_pos sized).ne'
  refine ⟨?_, fun number => rowCount_page fits sized, fun filled => rows_page_ne_nil fits sized filled last,
    fun number => ⟨⟨s.pageStart_le_pageStop number size, s.pageStop_le_rowCount number size⟩,
      s.rows_page number size, rfl, rows_page_eq_nil fits sized⟩⟩
  -- Every page before the last number starts within the sheet, so no bound is reached.
  have parts : (List.range (s.pageCount size)).flatMap (fun number => (s.page number size).rows)
      = (List.range (s.pageCount size)).flatMap fun number => (s.rows.drop (number * size)).take size := by
    refine List.flatMap_congr fun number _ => ?_
    rw [page_eq_slice (by omega), rows_slice]
  rw [parts, flatMap_parts]
  exact List.take_of_length_le (s.rowCount_le_pageCount_mul sized)

/-- The working days of a week. -/
def workingDays : Sheet := ⟨["day"], [["Mon"], ["Tue"], ["Wed"], ["Thu"], ["Fri"]], by decide⟩

/-- In twos they fill two pages and half of a third one. -/
theorem pages_partition_workingDays :
    (List.range 3).flatMap (fun number => (workingDays.page number 2).rows) = workingDays.rows
      ∧ (workingDays.page 1 2).rowCount = 2 ∧ (workingDays.page 2 2).rows ≠ []
      ∧ (workingDays.page (2 ^ 64 - 1) 2).rows = [] := by
  obtain ⟨whole, full, last, each⟩ := pages_partition workingDays 2 (by decide) (by decide)
  obtain ⟨_, _, _, behind⟩ := each (2 ^ 64 - 1)
  exact ⟨whole, full 1 (by decide), last (by decide), behind (by decide)⟩

end Sheet

end Datasheet
