import Mathlib.Data.String.Basic
import Datasheet.Proofs.Sheet.Paging
import Datasheet.Proofs.Text.Pieces
import Datasheet.Sheet.Boxed

/-! # Footers of pages

Under the box of a page stands a line with the number of the page, the number of pages and the number of rows. The
line always names a page of the sheet. It is the page in the box unless a page behind the last one was asked for:
then the box has no rows, but the line names the last page.
-/

namespace Datasheet

open Text

theorem append_cons_inj {α : Type} {front front' rest rest' : List α} {mark : α} (last : mark ∉ rest)
    (last' : mark ∉ rest') (same : front ++ mark :: rest = front' ++ mark :: rest') : front = front' ∧ rest = rest' := by
  rcases List.append_eq_append_iff.1 same with ⟨between, rfl, tail⟩ | ⟨between, rfl, tail⟩
  · cases between with
    | nil => exact ⟨(List.append_nil front).symm, (List.cons.inj tail).2⟩
    | cons c between =>
        have later := (List.cons.inj tail).2
        exact absurd (by simp [later]) last
  · cases between with
    | nil => exact ⟨List.append_nil front', (List.cons.inj tail).2.symm⟩
    | cons c between =>
        have later := (List.cons.inj tail).2
        exact absurd (by simp [later]) last'

theorem counted_inj {front front' mark : String} {n m : Nat} {c : Char} (sign : c.isDigit = false)
    (ends : ∃ start, mark.toList = start ++ [c]) (same : front ++ mark ++ n.repr = front' ++ mark ++ m.repr) :
    front = front' ∧ n = m := by
  obtain ⟨start, ends⟩ := ends
  have undigit (k : Nat) : c ∉ k.repr.toList := by
    intro member
    rw [Nat.toList_repr] at member
    simp [Nat.isDigit_of_mem_toDigits (by decide) (by decide) member] at sign
  have cut := congrArg String.toList same
  simp only [String.toList_append, ends, ← List.append_assoc] at cut
  simp only [List.append_assoc _ [c], List.singleton_append] at cut
  obtain ⟨fronts, counts⟩ := append_cons_inj (undigit n) (undigit m) cut
  have count : n = m := by
    rw [Nat.toList_repr, Nat.toList_repr] at counts
    rw [← Nat.ofDigitChars_ten_toDigits (n := n), counts, Nat.ofDigitChars_ten_toDigits]
  exact ⟨String.toList_inj.1 (List.append_cancel_right fronts), count⟩

namespace Sheet

variable {s : Sheet} {number size : Nat}

/-! ## The lines of a box -/

theorem not_mem_cellLines {cell : String} {line : List Char} (member : line ∈ cellLines cell) : '\n' ∉ line := by
  intro inside
  simpa using eq_false_of_mem_splitWhen member '\n' inside

theorem not_mem_padded {width : Nat} {line : List Char} (single : '\n' ∉ line) : '\n' ∉ padded width line := by
  simp [padded, single]

theorem not_mem_ruler {edge fill joint : Char} (drawn : edge ≠ '\n' ∧ fill ≠ '\n' ∧ joint ≠ '\n')
    (widths : List Nat) : '\n' ∉ ruler edge fill joint widths := by
  obtain ⟨onEdge, filling, joining⟩ := drawn
  have between : ∀ c ∈ joinWith [joint] (widths.map fun width => List.replicate (width + 2) fill), c ≠ '\n' := by
    apply forall_joinWith (P := (· ≠ '\n')) joining
    intro part member c inside
    obtain ⟨width, _, rfl⟩ := List.mem_map.1 member
    rw [List.eq_of_mem_replicate inside]
    exact filling
  intro member
  rcases List.mem_cons.1 member with rfl | member
  · exact onEdge rfl
  · rcases List.mem_append.1 member with inside | atEnd
    · exact between _ inside rfl
    · exact onEdge (List.mem_singleton.1 atEnd).symm

theorem not_mem_boxedRow {widths : List Nat} {row : List String} {line : List Char}
    (member : line ∈ boxedRow widths row) : '\n' ∉ line := by
  obtain ⟨index, _, rfl⟩ := List.mem_map.1 member
  intro inside
  rcases List.mem_cons.1 inside with edge | inside
  · exact absurd edge (by decide)
  · obtain ⟨part, member, inside⟩ := List.mem_flatten.1 inside
    obtain ⟨column, _, rfl⟩ := List.mem_iff_getElem.1 member
    rw [List.getElem_zipWith] at inside
    rcases List.mem_append.1 inside with filled | edge
    · refine not_mem_padded ?_ filled
      obtain ⟨cell, _, same⟩ := List.mem_map.1 (List.getElem_mem (l := row.map cellLines) _)
      rw [← same, List.getD_eq_getElem?_getD]
      cases found : (cellLines cell)[index]? with
      | none => exact List.not_mem_nil
      | some line => exact not_mem_cellLines (List.mem_of_getElem? found)
    · exact absurd (List.mem_singleton.1 edge) (by decide)

theorem not_mem_boxLines (s : Sheet) : ∀ line ∈ s.boxLines, '\n' ∉ line := by
  have edge : '\n' ∉ ruler '+' '-' '+' s.widths := not_mem_ruler (by decide) s.widths
  have double : '\n' ∉ ruler '+' '=' '=' s.widths := not_mem_ruler (by decide) s.widths
  have thin : '\n' ∉ ruler '|' '-' '+' s.widths := not_mem_ruler (by decide) s.widths
  have inside : ∀ line ∈ joinWith [ruler '|' '-' '+' s.widths] (s.rows.map (boxedRow s.widths)), '\n' ∉ line := by
    apply forall_joinWith (P := fun line => '\n' ∉ line) thin
    intro part member line inside
    obtain ⟨row, _, rfl⟩ := List.mem_map.1 member
    exact not_mem_boxedRow inside
  intro line member
  simp only [boxLines, List.mem_cons, List.mem_append, List.not_mem_nil, or_false] at member
  rcases member with rfl | header | rfl | row | rfl
  · exact edge
  · exact not_mem_boxedRow header
  · exact double
  · exact inside line row
  · exact edge

theorem splitOn_boxed (s : Sheet) : s.boxed.toList.splitOn '\n' = s.boxLines := by
  rw [boxed, String.toList_ofList]
  exact splitOn_joinWith s.not_mem_boxLines (List.cons_ne_nil _ _)

/-- The number of lines that the cells of a row take. -/
def boxedHeight (row : List String) : Nat :=
  (row.map cellLines).foldl (fun height lines => max height lines.length) 0

theorem length_boxedRow (widths : List Nat) (row : List String) : (boxedRow widths row).length = boxedHeight row := by
  simp [boxedRow, boxedHeight]

theorem boxedHeight_pos {row : List String} (nonempty : row ≠ []) : 0 < boxedHeight row := by
  have grows (cells : List (List (List Char))) (height : Nat) :
      height ≤ cells.foldl (fun height lines => max height lines.length) height := by
    induction cells generalizing height with
    | nil => exact Nat.le_refl height
    | cons lines cells ih => exact Nat.le_trans (Nat.le_max_left ..) (ih _)
  cases row with
  | nil => exact absurd rfl nonempty
  | cons cell row =>
      have first : 0 < (cellLines cell).length := List.length_pos_iff.2 (splitWhen_ne_nil _ _)
      calc 0 < max 0 (cellLines cell).length := by omega
        _ ≤ boxedHeight (cell :: row) := grows _ _

theorem length_boxLines (s : Sheet) : s.boxLines.length
    = (joinWith [ruler '|' '-' '+' s.widths] (s.rows.map (boxedRow s.widths))).length + boxedHeight s.header + 3 := by
  simp only [boxLines, List.length_cons, List.length_append, List.length_nil, length_boxedRow]
  omega

theorem boxed_ne_blank (columns : s.header ≠ []) (filled : s.rows ≠ []) : s.boxed ≠ (blank s.header).boxed := by
  intro same
  have solid : ∀ part ∈ s.rows.map (boxedRow s.widths), part ≠ [] := by
    intro part member
    obtain ⟨row, inside, rfl⟩ := List.mem_map.1 member
    have nonempty : row ≠ [] := by
      rw [← List.length_pos_iff, s.rectangular row inside]
      exact List.length_pos_iff.2 columns
    rw [← List.length_pos_iff, length_boxedRow]
    exact boxedHeight_pos nonempty
  have more := length_le_joinWith (ruler '|' '-' '+' s.widths) solid
  have rows := List.length_pos_iff.2 filled
  have lines : s.boxLines.length = (blank s.header).boxLines.length := by
    rw [← splitOn_boxed, ← splitOn_boxed, same]
  rw [length_boxLines, length_boxLines] at lines
  simp only [blank, List.map_nil, joinWith, List.length_nil, List.length_map] at lines more
  omega

/-! ## Footers -/

/-- A box with the line that says which page it is. -/
def footed (table : String) (shown pages rows : Nat) : String :=
  table ++ "\nPage " ++ shown.repr ++ " of " ++ pages.repr ++ " (" ++ rows.repr ++ " rows)"

theorem boxedPage_eq (s : Sheet) (number size : Nat) : s.boxedPage number size
    = footed (s.page number size).boxed (s.shownPage number size) (s.pageCount size) s.rowCount := rfl

/-- Box and counts can be told from a page's text. -/
theorem footed_inj {table table' : String} {shown shown' pages pages' rows rows' : Nat}
    (same : footed table shown pages rows = footed table' shown' pages' rows') :
    table = table' ∧ shown = shown' ∧ pages = pages' ∧ rows = rows' := by
  -- The counts are taken off one after another, the last one first.
  have text := (String.append_left_inj " rows)").1 same
  obtain ⟨text, rows⟩ := counted_inj (c := '(') rfl ⟨[' '], rfl⟩ text
  obtain ⟨text, pages⟩ := counted_inj (c := ' ') rfl ⟨" of".toList, rfl⟩ text
  obtain ⟨text, shown⟩ := counted_inj (c := ' ') rfl ⟨"\nPage".toList, rfl⟩ text
  exact ⟨text, shown, pages, rows⟩

theorem shownPage_of_lt (known : number < s.pageCount size) : s.shownPage number size = number + 1 := by
  rw [shownPage, Nat.min_eq_left (by omega)]

theorem shownPage_of_le (sized : 0 < size) (behind : s.pageCount size ≤ number) :
    s.shownPage number size = s.pageCount size := by
  have positive := s.pageCount_pos sized
  rw [shownPage, Nat.min_eq_right (by omega)]
  omega

theorem page_eq_blank (fits : s.rowCount < 2 ^ 64) (sized : 0 < size) (behind : s.pageCount size ≤ number) :
    s.page number size = blank s.header := Sheet.ext rfl (rows_page_eq_nil fits sized behind)

/-- The last page is boxed like one behind it only if the sheet has no rows. -/
theorem boxed_lastPage_eq_blank_iff (fits : s.rowCount < 2 ^ 64) (sized : 0 < size) (columns : s.header ≠ []) :
    (s.page (s.pageCount size - 1) size).boxed = (blank s.header).boxed ↔ s.rows = [] := by
  have last : s.pageCount size - 1 < s.pageCount size := Nat.sub_one_lt (s.pageCount_pos sized).ne'
  constructor
  · intro same
    by_contra filled
    exact boxed_ne_blank (s := s.page (s.pageCount size - 1) size) columns (rows_page_ne_nil fits sized filled last) same
  · intro rowless
    have rows : (s.page (s.pageCount size - 1) size).rows = [] := by
      rw [rows_page, rowless, List.take_nil, List.drop_nil]
    rw [show s.page (s.pageCount size - 1) size = blank s.header from Sheet.ext rfl rows]

/-- A page's text can be told apart into a box, the number of a page, the number of pages and the number of rows. The
    numbers are those of the sheet, and the page is one of its pages. It is the one that was asked for, and the one in
    the box, if the sheet has such a page. Behind the last page it is the last one, but the box has no rows; so the box
    is that of the page named exactly if such a page was asked for or there are no rows to show. -/
theorem boxedPage_names_page (s : Sheet) (number size : Nat) (fits : s.rowCount < 2 ^ 64) (sized : 0 < size) :
    (∃ table shown pages rows, s.boxedPage number size = footed table shown pages rows)
    ∧ ∀ table shown pages rows, s.boxedPage number size = footed table shown pages rows →
        (1 ≤ shown ∧ shown ≤ pages) ∧ pages = s.pageCount size ∧ rows = s.rowCount
        ∧ (number < s.pageCount size → shown = number + 1 ∧ table = (s.page (shown - 1) size).boxed)
        ∧ (s.pageCount size ≤ number → shown = pages ∧ table = (blank s.header).boxed)
        ∧ (s.header ≠ []
          → (table = (s.page (shown - 1) size).boxed ↔ number < s.pageCount size ∨ s.rows = [])) := by
  refine ⟨⟨_, _, _, _, boxedPage_eq s number size⟩, ?_⟩
  intro table shown pages rows same
  rw [boxedPage_eq] at same
  obtain ⟨rfl, rfl, rfl, rfl⟩ := footed_inj same
  have positive := s.pageCount_pos sized
  rcases Nat.lt_or_ge number (s.pageCount size) with known | behind
  · rw [shownPage_of_lt known, Nat.add_sub_cancel]
    exact ⟨⟨Nat.le_add_left 1 number, known⟩, rfl, rfl, fun _ => ⟨rfl, rfl⟩,
      fun behind => absurd known (Nat.not_lt.2 behind), fun _ => iff_of_true rfl (.inl known)⟩
  · rw [shownPage_of_le sized behind, page_eq_blank fits sized behind]
    refine ⟨⟨positive, Nat.le_refl _⟩, rfl, rfl, fun known => absurd known (Nat.not_lt.2 behind),
      fun _ => ⟨rfl, rfl⟩, fun columns => ?_⟩
    rw [eq_comm, boxed_lastPage_eq_blank_iff fits sized columns]
    exact (or_iff_right (Nat.not_lt.2 behind)).symm

/-- The third page of the working days in twos is boxed under its number. Whatever number is asked for after it, the
    box is another one. -/
theorem boxedPage_names_page_workingDays :
    (∀ table shown pages rows, workingDays.boxedPage 2 2 = footed table shown pages rows →
      shown = 3 ∧ table = (workingDays.page 2 2).boxed)
    ∧ ∀ table shown pages rows, workingDays.boxedPage 3 2 = footed table shown pages rows →
      shown = pages ∧ table ≠ (workingDays.page (shown - 1) 2).boxed := by
  refine ⟨fun table shown pages rows same => ?_, fun table shown pages rows same => ?_⟩
  · obtain ⟨_, _, _, known, _⟩ := (boxedPage_names_page workingDays 2 2 (by decide) (by decide)).2 _ _ _ _ same
    obtain ⟨rfl, named⟩ := known (by decide)
    exact ⟨rfl, named⟩
  · obtain ⟨_, _, _, _, behind, whole⟩ :=
      (boxedPage_names_page workingDays 3 2 (by decide) (by decide)).2 _ _ _ _ same
    exact ⟨(behind (by decide)).1, fun named => absurd ((whole (by decide)).1 named) (by decide)⟩

/-- Behind the last page of the working days no day is in the box, although the line names the page with Friday. -/
theorem workingDays_footer_misleads : ∃ table, workingDays.boxedPage 3 2 = footed table 3 3 5
    ∧ table = "+-----+\n| day |\n+=====+\n+-----+" ∧ table ≠ (workingDays.page (3 - 1) 2).boxed :=
  ⟨"+-----+\n| day |\n+=====+\n+-----+", by decide +kernel, rfl, by decide +kernel⟩

end Sheet

end Datasheet
