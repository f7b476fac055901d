import Datasheet.Proofs.Selection.Meaning

/-! # How operators divide the rows

A selection by one filter answers the rows whose cell stands in the operator's relation to the value, and a row whose cell
cannot be read stands in none. Numbers and moments are ordered without exception, so the comparisons of a domain divide
the rows that can be read among them; equal and different texts divide all rows.
-/

namespace Datasheet

open Calendar

/-! ## Relations -/

namespace NumericOperator

/-- The ways in which two numbers may compare where the operator relates them. -/
def orderings : NumericOperator → List Ordering
  | equal => [.eq]
  | notEqual => [.lt, .gt]
  | less => [.lt]
  | lessOrEqual => [.lt, .eq]
  | greater => [.gt]
  | greaterOrEqual => [.gt, .eq]

theorem relates_iff (op : NumericOperator) (x y : Binary64) : op.Relates x y ↔ compare x.value y.value ∈ op.orderings := by
  rcases Int.lt_trichotomy x.value y.value with below | same | above
  · have ordered : compare x.value y.value = .lt := Int.compare_eq_lt.2 below
    cases op <;> simp [Relates, orderings, ordered] <;> omega
  · cases op <;> simp [Relates, orderings, same]
  · have ordered : compare x.value y.value = .gt := Int.compare_eq_gt.2 above
    cases op <;> simp [Relates, orderings, ordered] <;> omega

end NumericOperator

/-- Two moments are told apart by nothing but their offsets. -/
def Calendar.Moment.SameInstant (m n : Moment) : Prop := m.seconds = n.seconds ∧ m.nanosecond = n.nanosecond

theorem Calendar.Moment.precedes_or (m n : Moment) : m.Precedes n ∨ m.SameInstant n ∨ n.Precedes m := by
  simp only [Precedes, SameInstant]
  omega

theorem Calendar.Moment.Precedes.not_precedes {m n : Moment} (first : m.Precedes n) : ¬n.Precedes m := by
  simp only [Precedes] at *
  omega

theorem Calendar.Moment.Precedes.not_sameInstant {m n : Moment} (first : m.Precedes n) :
    ¬m.SameInstant n ∧ ¬n.SameInstant m := by
  simp only [Precedes, SameInstant] at *
  omega

/-! ## Rows of several answers -/

namespace Sheet

/-- The cell of a row in the first column of a name. -/
def cellOf (s : Sheet) (field : String) (row : List String) : String := row.getD (s.header.idxOf field) ""

/-- The rows that stand in one of several lists, in the sheet's order and with all their copies. -/
def among (s : Sheet) (lists : List (List (List String))) : List (List String) :=
  s.rows.filter fun row => lists.any (·.contains row)

theorem among_filters (s : Sheet) (ps : List (List String → Bool)) :
    s.among (ps.map fun p => s.rows.filter p) = s.rows.filter fun row => ps.any (· row) := by
  refine List.filter_congr fun row member => ?_
  rw [List.any_map, Bool.eq_iff_iff]
  simp [member]

end Sheet

theorem disjoint_filter {α : Type} {l : List α} {p q : α → Bool} (apart : ∀ a, p a = true → ¬q a = true) :
    (l.filter p).Disjoint (l.filter q) :=
  fun a here there => apart a (List.mem_filter.1 here).2 (List.mem_filter.1 there).2

namespace Selection

/-- A selection by one filter answers some rows of a dataset under the dataset's header: of equal rows all or none. -/
structure Finds (d : Dataset) (ignoreCase : Bool) (f : Filter) (rows : List (List String)) : Prop where
  answers : ∃ answer, run { filters := [f], ignoreCase := ignoreCase } d = .ok answer ∧
    answer.header = d.sheet.header ∧ answer.rows = rows
  whole : d.sheet.among [rows] = rows

/-- The rows whose cell a filter admits. -/
def admitted (s : Sheet) (ignoreCase : Bool) (f : Filter) : List (List String) :=
  s.rows.filter fun row => f.Admits ignoreCase (s.cellOf f.field row)

variable {d : Dataset} {s : Sheet} {ignoreCase : Bool} {field value : String}

theorem finds_admitted {f : Filter} (column : f.field ∈ d.sheet.header) (readable : f.IsReadable) :
    Finds d ignoreCase f (admitted d.sheet ignoreCase f) where
  answers := run_single column readable ignoreCase
  whole := by
    have alone := d.sheet.among_filters [fun row => f.Admits ignoreCase (d.sheet.cellOf f.field row)]
    simpa [admitted] using alone

/-! ## Numbers -/

section

variable {y : Binary64} (read : readNumber? value = some y)
include read

theorem admits_number_iff (op : NumericOperator) (cell : String) :
    Filter.Admits ⟨field, .numeric op, value⟩ ignoreCase cell
      ↔ ∃ x ∈ readNumber? cell, compare x.value y.value ∈ op.orderings := by
  simp only [Filter.Admits, Operator.Admits, read, Option.mem_def, Option.some.injEq, exists_eq_left', op.relates_iff]

/-- Operators that share no way to compare share no row. -/
theorem disjoint_numbers {a b : NumericOperator} (apart : ∀ o ∈ a.orderings, o ∉ b.orderings) :
    (admitted s ignoreCase ⟨field, .numeric a, value⟩).Disjoint (admitted s ignoreCase ⟨field, .numeric b, value⟩) := by
  refine disjoint_filter fun row first second => ?_
  obtain ⟨x, here, ordered⟩ := (admits_number_iff read a _).1 (of_decide_eq_true first)
  obtain ⟨x', here', ordered'⟩ := (admits_number_iff read b _).1 (of_decide_eq_true second)
  obtain rfl := Option.some.inj (here.symm.trans here')
  exact apart _ ordered ordered'

theorem among_numbers (ops : List NumericOperator) :
    s.among (ops.map fun op => admitted s ignoreCase ⟨field, .numeric op, value⟩)
      = s.rows.filter fun row =>
        ∃ x ∈ readNumber? (s.cellOf field row), ∃ op ∈ ops, compare x.value y.value ∈ op.orderings := by
  have united := s.among_filters (ops.map fun op row =>
    decide (Filter.Admits ⟨field, .numeric op, value⟩ ignoreCase (s.cellOf field row)))
  rw [List.map_map] at united
  refine united.trans (List.filter_congr fun row _ => ?_)
  rw [Bool.eq_iff_iff]
  simp only [List.any_map, List.any_eq_true, Function.comp_apply, decide_eq_true_eq, admits_number_iff read]
  constructor
  · rintro ⟨op, member, x, here, ordered⟩
    exact ⟨x, here, op, member, ordered⟩
  · rintro ⟨x, here, op, member, ordered⟩
    exact ⟨op, member, x, here, ordered⟩

theorem admitted_eq_among {op : NumericOperator} (ops : List NumericOperator)
    (same : ∀ o, o ∈ op.orderings ↔ ∃ other ∈ ops, o ∈ other.orderings) :
    admitted s ignoreCase ⟨field, .numeric op, value⟩
      = s.among (ops.map fun op => admitted s ignoreCase ⟨field, .numeric op, value⟩) := by
  rw [among_numbers read]
  refine List.filter_congr fun row _ => decide_eq_decide.2 ?_
  simp only [admits_number_iff read, same]

theorem among_eq_numbers (ops : List NumericOperator) (all : ∀ o, ∃ op ∈ ops, o ∈ op.orderings) :
    s.among (ops.map fun op => admitted s ignoreCase ⟨field, .numeric op, value⟩)
      = s.rows.filter fun row => (readNumber? (s.cellOf field row)).isSome := by
  rw [among_numbers read]
  refine List.filter_congr fun row _ => ?_
  cases readNumber? (s.cellOf field row) with
  | none => simp
  | some x => simpa using all (compare x.value y.value)

end

/-! ## Moments -/

section

variable {n : Moment} (read : DateNotation.isoOffset.read? value = some n)
include read

theorem admits_moment_iff (op : DateOperator) (cell : String) :
    Filter.Admits ⟨field, .date op, value⟩ ignoreCase cell
      ↔ ∃ m ∈ DateNotation.readFirst? DateNotation.ofCells cell, op.Relates m n := by
  simp only [Filter.Admits, Operator.Admits, read, Option.mem_def, Option.some.injEq, exists_eq_left']

theorem disjoint_moments :
    (admitted s ignoreCase ⟨field, .date .before, value⟩).Disjoint (admitted s ignoreCase ⟨field, .date .after, value⟩) := by
  refine disjoint_filter fun row first second => ?_
  obtain ⟨m, here, before⟩ := (admits_moment_iff read .before _).1 (of_decide_eq_true first)
  obtain ⟨m', here', after⟩ := (admits_moment_iff read .after _).1 (of_decide_eq_true second)
  obtain rfl := Option.some.inj (here.symm.trans here')
  exact Moment.Precedes.not_precedes before after

/-- A row is neither before nor after a moment if its cell is no date or tells the same instant. -/
theorem not_mem_among_moments {row : List String} (member : row ∈ s.rows) :
    row ∉ s.among [admitted s ignoreCase ⟨field, .date .before, value⟩, admitted s ignoreCase ⟨field, .date .after, value⟩]
      ↔ (∀ form ∈ DateNotation.ofCells, form.read? (s.cellOf field row) = none)
        ∨ ∃ m, DateNotation.readFirst? DateNotation.ofCells (s.cellOf field row) = some m ∧ m.SameInstant n := by
  have unread : (∀ form ∈ DateNotation.ofCells, form.read? (s.cellOf field row) = none)
      ↔ DateNotation.readFirst? DateNotation.ofCells (s.cellOf field row) = none :=
    List.findSome?_eq_none_iff.symm
  have found : row ∈ s.among [admitted s ignoreCase ⟨field, .date .before, value⟩,
        admitted s ignoreCase ⟨field, .date .after, value⟩]
      ↔ ∃ m ∈ DateNotation.readFirst? DateNotation.ofCells (s.cellOf field row), m.Precedes n ∨ n.Precedes m := by
    simp only [Sheet.among, admitted, List.mem_filter, List.any_cons, List.any_nil, Bool.or_false, Bool.or_eq_true,
      List.contains_iff_mem, member, true_and, decide_eq_true_eq, admits_moment_iff read, DateOperator.Relates]
    simp only [← exists_or, ← and_or_left]
  rw [found, unread]
  cases DateNotation.readFirst? DateNotation.ofCells (s.cellOf field row) with
  | none => simp
  | some m =>
      simp only [Option.mem_def, Option.some.injEq, exists_eq_left', reduceCtorEq, false_or]
      constructor
      · intro apart
        rcases m.precedes_or n with before | same | after
        · exact absurd (.inl before) apart
        · exact same
        · exact absurd (.inr after) apart
      · rintro same (before | after)
        · exact before.not_sameInstant.1 same
        · exact after.not_sameInstant.2 same

end

/-! ## Texts -/

theorem disjoint_texts :
    (admitted s ignoreCase ⟨field, .text .equals, value⟩).Disjoint (admitted s ignoreCase ⟨field, .text .different, value⟩) := by
  refine disjoint_filter fun row first second => ?_
  have same : Filter.Admits ⟨field, .text .equals, value⟩ ignoreCase (s.cellOf field row) := of_decide_eq_true first
  have other : Filter.Admits ⟨field, .text .different, value⟩ ignoreCase (s.cellOf field row) := of_decide_eq_true second
  exact other same

theorem among_texts :
    s.among [admitted s ignoreCase ⟨field, .text .equals, value⟩, admitted s ignoreCase ⟨field, .text .different, value⟩]
      = s.rows := by
  refine List.filter_eq_self.2 fun row member => ?_
  simp only [admitted, List.any_cons, List.any_nil, Bool.or_false, Bool.or_eq_true, List.contains_iff_mem,
    List.mem_filter, member, true_and, decide_eq_true_eq]
  exact Decidable.em _

theorem admitted_equals_sublist {op : TextOperator} (part : op ∈ [TextOperator.contains, .startsWith, .endsWith]) :
    (admitted s ignoreCase ⟨field, .text .equals, value⟩).Sublist (admitted s ignoreCase ⟨field, .text op, value⟩) := by
  refine List.monotone_filter_right _ fun row equal => ?_
  have equal : Filter.Admits ⟨field, .text .equals, value⟩ ignoreCase (s.cellOf field row) := of_decide_eq_true equal
  have same : CellTest.folded ignoreCase (s.cellOf field row).toList = CellTest.folded ignoreCase value.toList := equal
  have related : Filter.Admits ⟨field, .text op, value⟩ ignoreCase (s.cellOf field row) := by
    simp only [Filter.Admits, Operator.Admits, same]
    cases op with
    | contains => exact List.infix_refl _
    | startsWith => exact List.prefix_refl _
    | endsWith => exact List.suffix_refl _
    | equals | different => exact absurd part (by decide)
  exact decide_eq_true related

/-! ## All operators -/

/-- The operators of each domain divide the rows of a sheet by their cells in a column. A number is equal to, less than or
    greater than the cells that are numbers, in exactly one of these ways, and each other comparison of numbers finds
    what two of these find. A moment is before or after the cells that are dates and tell another instant. A text is
    equal to a cell or different from it, and where it is equal it is a part, the start and the end of the cell. -/
theorem operators_divide_rows (d : Dataset) (field value : String) (ignoreCase : Bool) (column : field ∈ d.sheet.header) :
    let cell := d.sheet.cellOf field
    let finds (op : Operator) := Finds d ignoreCase ⟨field, op, value⟩
    ((readNumber? value).isSome → ∃ rows : NumericOperator → List (List String),
      (∀ op, finds (.numeric op) (rows op)) ∧
      [rows .equal, rows .less, rows .greater].Pairwise List.Disjoint ∧
      (d.sheet.among [rows .equal, rows .less, rows .greater]
        = d.sheet.rows.filter fun row => (readNumber? (cell row)).isSome) ∧
      rows .lessOrEqual = d.sheet.among [rows .less, rows .equal] ∧
      rows .greaterOrEqual = d.sheet.among [rows .greater, rows .equal] ∧
      rows .notEqual = d.sheet.among [rows .less, rows .greater]) ∧
    (∀ n, DateNotation.isoOffset.read? value = some n → ∃ rows : DateOperator → List (List String),
      (∀ op, finds (.date op) (rows op)) ∧
      (rows .before).Disjoint (rows .after) ∧
      ∀ row ∈ d.sheet.rows, row ∉ d.sheet.among [rows .before, rows .after] ↔
        (∀ form ∈ DateNotation.ofCells, form.read? (cell row) = none) ∨
          ∃ m, DateNotation.readFirst? DateNotation.ofCells (cell row) = some m ∧ m.SameInstant n) ∧
    ∃ rows : TextOperator → List (List String),
      (∀ op, finds (.text op) (rows op)) ∧
      (rows .equals).Disjoint (rows .different) ∧
      d.sheet.among [rows .equals, rows .different] = d.sheet.rows ∧
      ∀ op ∈ [TextOperator.contains, .startsWith, .endsWith], (rows .equals).Sublist (rows op) := by
  intro cell finds
  refine ⟨fun readable => ?_, fun n read => ?_, ?_⟩
  · obtain ⟨y, read⟩ := Option.isSome_iff_exists.1 readable
    refine ⟨fun op => admitted d.sheet ignoreCase ⟨field, .numeric op, value⟩, fun op => finds_admitted column readable,
      ?_, among_eq_numbers read [.equal, .less, .greater] (by decide),
      admitted_eq_among read [.less, .equal] (by decide),
      admitted_eq_among read [.greater, .equal] (by decide),
      admitted_eq_among read [.less, .greater] (by decide)⟩
    simp only [List.pairwise_cons, List.mem_cons, List.not_mem_nil, or_false, forall_eq_or_imp, forall_eq]
    exact ⟨⟨disjoint_numbers read (by decide), disjoint_numbers read (by decide)⟩,
      disjoint_numbers read (by decide), by simp⟩
  · have readable : (DateNotation.isoOffset.read? value).isSome := by simp [read]
    exact ⟨fun op => admitted d.sheet ignoreCase ⟨field, .date op, value⟩, fun op => finds_admitted column readable,
      disjoint_moments read, fun row member => not_mem_among_moments read member⟩
  · exact ⟨fun op => admitted d.sheet ignoreCase ⟨field, .text op, value⟩, fun op => finds_admitted column trivial,
      disjoint_texts, among_texts, fun op part => admitted_equals_sublist part⟩

/-- Levels with the moments at which they were taken. -/
def levels : Dataset where
  name := "levels"
  sheet := ⟨["level", "at"],
    [["-0", "2021-01-01T01:00+01:00"], ["NaN", "01/01/2021 01:00:00 AM"], ["3", "soon"]], by decide⟩

/-- Zero of either sign is no more than zero, what is no number stands to it in no way, and the same instant in another
    notation is neither before nor after. -/
theorem operators_divide_rows_levels :
    (∃ rows : NumericOperator → List (List String),
      (∀ op, Finds levels true ⟨"level", .numeric op, "0"⟩ (rows op)) ∧
      levels.sheet.among [rows .equal, rows .less, rows .greater] = [["-0", "2021-01-01T01:00+01:00"], ["3", "soon"]] ∧
      rows .lessOrEqual = levels.sheet.among [rows .less, rows .equal]) ∧
    ∃ rows : DateOperator → List (List String),
      (∀ op, Finds levels false ⟨"at", .date op, "2021-01-01T00:00Z"⟩ (rows op)) ∧
      ["-0", "2021-01-01T01:00+01:00"] ∉ levels.sheet.among [rows .before, rows .after] ∧
      ["NaN", "01/01/2021 01:00:00 AM"] ∈ levels.sheet.among [rows .before, rows .after] := by
  constructor
  · obtain ⟨numbers, _, _⟩ := operators_divide_rows levels "level" "0" true (by decide)
    obtain ⟨rows, found, _, all, atMost, _⟩ := numbers (by decide +kernel)
    exact ⟨rows, found, all.trans (by decide +kernel), atMost⟩
  · obtain ⟨_, moments, _⟩ := operators_divide_rows levels "at" "2021-01-01T00:00Z" false (by decide)
    obtain ⟨rows, found, _, missed⟩ := moments ⟨⟨2021, 1, 1⟩, 0, 0, 0, 0, 0⟩ (by decide +kernel)
    refine ⟨rows, found, (missed _ (by decide)).2 (.inr ⟨⟨⟨2021, 1, 1⟩, 1, 0, 0, 0, 60⟩, by decide +kernel, ?_⟩), ?_⟩
    · exact ⟨by decide, by decide⟩
    · by_contra absent
      rcases (missed _ (by decide)).1 absent with unread | ⟨m, read, same⟩
      · exact absurd (unread .legacy (by decide)) (by decide +kernel)
      · obtain rfl : ⟨⟨2021, 1, 1⟩, 1, 0, 0, 0, 0⟩ = m := Option.some.inj ((by decide +kernel : _ = _).symm.trans read)
        exact absurd same.1 (by decide)

end Selection

end Datasheet
