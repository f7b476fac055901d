import Datasheet.Proofs.Filter.Admission
import Datasheet.Selection

/-! # What selections answer

A selection is run filter by filter, and then the columns that are not asked for are erased one by one. Here the
answer is told without the order of these steps: which selections fail depends on the header alone, and the
answer of any other selection has the rows that every filter admits, cut down to the positions that are asked for.
-/

namespace Datasheet

namespace Sheet

theorem filterRows_filterRows (s : Sheet) (p q : List String → Bool) :
    (s.filterRows p).filterRows q = s.filterRows fun row => p row && q row := by
  apply Sheet.ext
  · rfl
  · simp [filterRows, List.filter_filter, Bool.and_comm]

end Sheet

namespace Selection

/-- The selection asks for something that a sheet with the header does not have, or compares with a value that
    cannot be read. -/
def IsFaulty (s : Selection) (header : List String) : Prop :=
  (∃ f ∈ s.filters, f.field ∉ header) ∨ (∃ f ∈ s.filters, ¬f.IsReadable) ∨ ∃ column ∈ s.columns, column ∉ header

/-- Every filter admits the row's cell in the first column of its name. -/
def Keeps (s : Selection) (header row : List String) : Prop :=
  ∀ f ∈ s.filters, ∃ cell ∈ row[header.idxOf f.field]?, f.Admits s.ignoreCase cell

instance (s : Selection) (header row : List String) : Decidable (s.Keeps header row) :=
  inferInstanceAs (Decidable (∀ f ∈ s.filters, ∃ cell ∈ row[header.idxOf f.field]?, f.Admits s.ignoreCase cell))

/-- The positions of the columns that are asked for; all positions if no column is named. -/
def positions (s : Selection) (header : List String) : List Nat :=
  (List.range header.length).filter fun index => s.columns.isEmpty || s.columns.contains (header.getD index "")

/-- A header or a row cut down to some of its positions. -/
def restricted (positions : List Nat) (cells : List String) : List String := positions.map (cells.getD · "")

/-! ## Narrowing -/

/-- The filter admits the cell that a row has in the first column of the filter's name. -/
def accepts (ignoreCase : Bool) (header : List String) (f : Filter) (row : List String) : Bool :=
  decide (∃ cell ∈ row[header.idxOf f.field]?, f.Admits ignoreCase cell)

theorem narrow_eq_ok {ignoreCase : Bool} {sheet : Sheet} {f : Filter} (known : f.field ∈ sheet.header)
    (readable : f.IsReadable) :
    narrow ignoreCase sheet f = .ok (sheet.filterRows (accepts ignoreCase sheet.header f)) := by
  obtain ⟨test, made⟩ := (f.isOk_test ignoreCase).2 readable
  simp only [narrow, Sheet.column?_eq_some known, made]
  congr 2
  funext row
  cases h : row[sheet.header.idxOf f.field]? with
  | none => simp [accepts, h]
  | some cell =>
      rw [Bool.eq_iff_iff]
      simpa [accepts, h] using Filter.holds_test made cell

theorem narrow_eq_error {ignoreCase : Bool} {sheet : Sheet} {f : Filter}
    (fault : f.field ∉ sheet.header ∨ ¬f.IsReadable) :
    narrow ignoreCase sheet f = .error (.unknownField f.field) ∨
      ∃ cause, narrow ignoreCase sheet f = .error (.filter cause) := by
  by_cases known : f.field ∈ sheet.header
  · have unreadable : ¬f.IsReadable := fault.resolve_left (not_not_intro known)
    cases made : f.test ignoreCase with
    | ok test => exact absurd ((f.isOk_test ignoreCase).1 ⟨test, made⟩) unreadable
    | error cause => exact .inr ⟨cause, by simp [narrow, Sheet.column?_eq_some known, made]⟩
  · exact .inl (by simp [narrow, Sheet.column?_eq_none known])

/-- Narrowing by one filter after the other keeps the rows that all of them accept. -/
theorem foldlM_narrow_eq_ok {ignoreCase : Bool} {filters : List Filter} {sheet : Sheet}
    (sound : ∀ f ∈ filters, f.field ∈ sheet.header ∧ f.IsReadable) :
    filters.foldlM (narrow ignoreCase) sheet =
      .ok (sheet.filterRows fun row => filters.all fun f => accepts ignoreCase sheet.header f row) := by
  induction filters generalizing sheet with
  | nil =>
      refine congrArg Except.ok (Sheet.ext rfl ?_)
      simp [Sheet.filterRows]
  | cons f filters ih =>
      obtain ⟨known, readable⟩ := sound f List.mem_cons_self
      have rest := @ih (sheet.filterRows (accepts ignoreCase sheet.header f))
        fun g member => sound g (List.mem_cons_of_mem _ member)
      simp only [List.foldlM_cons, narrow_eq_ok known readable, List.all_cons]
      refine rest.trans ?_
      rw [Sheet.filterRows_filterRows]
      rfl

theorem foldlM_narrow_eq_error {ignoreCase : Bool} {filters : List Filter} {sheet : Sheet}
    (fault : ∃ f ∈ filters, f.field ∉ sheet.header ∨ ¬f.IsReadable) :
    ∃ e, filters.foldlM (narrow ignoreCase) sheet = .error e ∧
      ∀ row expected found, e ≠ .ragged row expected found := by
  induction filters generalizing sheet with
  | nil => simp at fault
  | cons f filters ih =>
      by_cases here : f.field ∉ sheet.header ∨ ¬f.IsReadable
      · rcases @narrow_eq_error ignoreCase sheet f here with failed | ⟨cause, failed⟩
        · exact ⟨_, by rw [List.foldlM_cons, failed]; rfl, by simp⟩
        · exact ⟨_, by rw [List.foldlM_cons, failed]; rfl, by simp⟩
      · obtain ⟨known, readable⟩ := not_or.1 here
        obtain ⟨g, member, later⟩ := fault
        have member : g ∈ filters := by
          rcases List.mem_cons.1 member with rfl | member
          · exact absurd later here
          · exact member
        obtain ⟨e, failed, cause⟩ := @ih (sheet.filterRows (accepts ignoreCase sheet.header f)) ⟨g, member, later⟩
        refine ⟨e, ?_, cause⟩
        rw [List.foldlM_cons, narrow_eq_ok (not_not.1 known) (not_not.1 readable)]
        exact failed

/-! ## Erasing columns -/

/-- The positions before `count` whose names are asked for. -/
def keptBelow (columns header : List String) (count : Nat) : List Nat :=
  (List.range count).filter fun index => columns.contains (header.getD index "")

theorem keptBelow_succ (columns header : List String) (count : Nat) :
    keptBelow columns header (count + 1) =
      keptBelow columns header count ++ if columns.contains (header.getD count "") then [count] else [] := by
  rw [keptBelow, List.range_succ, List.filter_append, List.filter_singleton]
  cases columns.contains (header.getD count "") <;> rfl

theorem getD_eraseIdx_of_lt {cells : List String} {index count : Nat} (before : index < count) :
    (cells.eraseIdx count).getD index "" = cells.getD index "" := by
  rw [List.getD_eq_getElem?_getD, List.getD_eq_getElem?_getD, List.getElem?_eraseIdx_of_lt before]

theorem keptBelow_eraseIdx (columns header : List String) (count : Nat) :
    keptBelow columns (header.eraseIdx count) count = keptBelow columns header count := by
  apply List.filter_congr
  intro index member
  rw [getD_eraseIdx_of_lt (List.mem_range.1 member)]

theorem restricted_eraseIdx (columns header cells : List String) (count : Nat) :
    restricted (keptBelow columns header count) (cells.eraseIdx count) =
      restricted (keptBelow columns header count) cells := by
  apply List.map_congr_left
  intro index member
  exact getD_eraseIdx_of_lt (List.mem_range.1 (List.mem_filter.1 member).1)

/-- The cells from `count` on are the ones that the erasing has dealt with: they stay, and of the cells before
    them those at kept positions stay. -/
def settled (columns header : List String) (count : Nat) (cells : List String) : List String :=
  restricted (keptBelow columns header count) cells ++ cells.drop count

theorem settled_header_eraseIdx (columns header : List String) (count : Nat) :
    settled columns (header.eraseIdx count) count = settled columns header count := by
  funext cells
  rw [settled, settled, keptBelow_eraseIdx]

theorem drop_eraseIdx (cells : List String) (count : Nat) :
    (cells.eraseIdx count).drop count = cells.drop (count + 1) := by
  induction cells generalizing count with
  | nil => simp
  | cons cell cells ih =>
      cases count with
      | zero => rfl
      | succ count => simp [ih count]

theorem settled_eraseIdx (columns header cells : List String) (count : Nat)
    (unwanted : ¬columns.contains (header.getD count "") = true) :
    settled columns header count (cells.eraseIdx count) = settled columns header (count + 1) cells := by
  rw [settled, settled, restricted_eraseIdx, drop_eraseIdx, keptBelow_succ, if_neg unwanted, List.append_nil]

theorem settled_succ (columns header cells : List String) (count : Nat) (inside : count < cells.length)
    (wanted : columns.contains (header.getD count "") = true) :
    settled columns header (count + 1) cells = settled columns header count cells := by
  simp only [settled, keptBelow_succ, wanted, if_true, restricted, List.map_append, List.append_assoc]
  rw [List.drop_eq_getElem_cons inside]
  simp [inside]

/-- Erasing from the back leaves, of the positions before `count`, exactly those that are asked for. -/
theorem eraseOthers_eq (columns : List String) (count : Nat) (sheet : Sheet)
    (inside : count ≤ sheet.header.length) :
    (eraseOthers columns count sheet).header = settled columns sheet.header count sheet.header ∧
      (eraseOthers columns count sheet).rows = sheet.rows.map (settled columns sheet.header count) := by
  -- The sheet changes from step to step; what is asked for before `count` does not, by `settled_header_eraseIdx`.
  induction count generalizing sheet with
  | zero =>
      have unchanged : settled columns sheet.header 0 = id := rfl
      simp [eraseOthers, unchanged]
  | succ count ih =>
      rw [eraseOthers]
      by_cases wanted : columns.contains (sheet.header.getD count "") = true
      · rw [if_pos wanted]
        obtain ⟨header, rows⟩ := ih sheet (Nat.le_of_succ_le inside)
        refine ⟨header.trans (settled_succ _ _ _ _ inside wanted).symm, rows.trans ?_⟩
        apply List.map_congr_left
        intro row member
        have whole : count < row.length := by rw [sheet.rectangular row member]; exact inside
        exact (settled_succ _ _ _ _ whole wanted).symm
      · rw [if_neg wanted]
        have shorter : count ≤ (sheet.eraseColumn count).header.length := by
          simp only [Sheet.eraseColumn, List.length_eraseIdx]
          split <;> omega
        obtain ⟨header, rows⟩ := ih (sheet.eraseColumn count) shorter
        simp only [Sheet.eraseColumn, settled_header_eraseIdx, List.map_map] at header rows
        refine ⟨header.trans (settled_eraseIdx _ _ _ _ wanted), rows.trans ?_⟩
        apply List.map_congr_left
        intro row _
        exact settled_eraseIdx _ _ _ _ wanted

theorem restricted_range {count : Nat} {cells : List String} (whole : cells.length = count) :
    restricted (List.range count) cells = cells := by
  apply List.ext_getElem
  · simp [restricted, whole]
  · intro index _ inside
    simp [restricted, inside]

theorem project_eq_ok {s : Selection} {sheet : Sheet} (known : ∀ column ∈ s.columns, column ∈ sheet.header) :
    ∃ projected, project s.columns sheet = .ok projected ∧
      projected.header = restricted (s.positions sheet.header) sheet.header ∧
      projected.rows = sheet.rows.map (restricted (s.positions sheet.header)) := by
  cases asked : s.columns.isEmpty with
  | true =>
      have all : s.positions sheet.header = List.range sheet.header.length := by simp [positions, asked]
      refine ⟨sheet, by simp [project, asked], ?_, ?_⟩
      · rw [all, restricted_range rfl]
      · rw [all, List.map_congr_left fun row member => restricted_range (sheet.rectangular row member)]
        simp
  | false =>
      have found : s.columns.find? (fun column => !sheet.header.contains column) = none := by
        simpa [List.find?_eq_none] using known
      have kept : s.positions sheet.header = keptBelow s.columns sheet.header sheet.header.length := by
        simp [positions, keptBelow, asked]
      obtain ⟨header, rows⟩ := eraseOthers_eq s.columns sheet.header.length sheet (Nat.le_refl _)
      refine ⟨eraseOthers s.columns sheet.header.length sheet, by
        simp only [project, asked, found, Bool.false_eq_true, if_false], ?_, ?_⟩
      · rw [header, kept, settled, List.drop_length, List.append_nil]
      · rw [rows, kept]
        apply List.map_congr_left
        intro row member
        rw [settled, List.drop_of_length_le (Nat.le_of_eq (sheet.rectangular row member)), List.append_nil]

theorem project_eq_error {columns : List String} {sheet : Sheet}
    (fault : ∃ column ∈ columns, column ∉ sheet.header) :
    ∃ missing, project columns sheet = .error (.unknownField missing) := by
  obtain ⟨column, asked, absent⟩ := fault
  have some_asked : columns.isEmpty = false := by
    cases columns with
    | nil => simp at asked
    | cons => rfl
  cases found : columns.find? (fun column => !sheet.header.contains column) with
  | none => exact absurd (by simpa using List.find?_eq_none.1 found column asked) absent
  | some missing => exact ⟨missing, by simp only [project, some_asked, found, Bool.false_eq_true, if_false]⟩

/-! ## Running -/

theorem run_eq_ok {s : Selection} {d : Dataset} (sound : ¬s.IsFaulty d.sheet.header) :
    ∃ answer, s.run d = .ok answer ∧
      answer.header = restricted (s.positions d.sheet.header) d.sheet.header ∧
      answer.rows = (d.sheet.rows.filter fun row => s.Keeps d.sheet.header row).map
        (restricted (s.positions d.sheet.header)) := by
  obtain ⟨fields, rest⟩ := not_or.1 sound
  obtain ⟨values, columns⟩ := not_or.1 rest
  have narrowed := @foldlM_narrow_eq_ok s.ignoreCase s.filters d.sheet
    fun f member => ⟨by_contra fun unknown => fields ⟨f, member, unknown⟩,
      by_contra fun unreadable => values ⟨f, member, unreadable⟩⟩
  have keeps : (fun row => s.filters.all fun f => accepts s.ignoreCase d.sheet.header f row) =
      fun row => decide (s.Keeps d.sheet.header row) := by
    funext row
    rw [Bool.eq_iff_iff]
    simp [Keeps, accepts]
  obtain ⟨projected, made, header, rows⟩ := @project_eq_ok s
    (d.sheet.filterRows fun row => s.filters.all fun f => accepts s.ignoreCase d.sheet.header f row)
    fun column member => by_contra fun unknown => columns ⟨column, member, unknown⟩
  refine ⟨projected, ?_, header, ?_⟩
  · calc s.run d = (project s.columns _).bind fun projected => Sheet.ofRows projected.header projected.rows :=
          by rw [run, narrowed]; rfl
      _ = Sheet.ofRows projected.header projected.rows := by rw [made]; rfl
      _ = .ok projected := Sheet.ofRows_eq_ok projected.rectangular
  · rw [rows, Sheet.filterRows, keeps]

theorem run_eq_error {s : Selection} {d : Dataset} (fault : s.IsFaulty d.sheet.header) :
    ∃ e, s.run d = .error e ∧ ∀ row expected found, e ≠ .ragged row expected found := by
  by_cases filters : ∃ f ∈ s.filters, f.field ∉ d.sheet.header ∨ ¬f.IsReadable
  · obtain ⟨e, failed, cause⟩ := @foldlM_narrow_eq_error s.ignoreCase s.filters d.sheet filters
    exact ⟨e, by rw [run, failed]; rfl, cause⟩
  · have sound : ∀ f ∈ s.filters, f.field ∈ d.sheet.header ∧ f.IsReadable := by
      simpa only [not_exists, not_and, not_or, not_not] using filters
    have columns : ∃ column ∈ s.columns, column ∉ d.sheet.header := by
      rcases fault with ⟨f, member, unknown⟩ | ⟨f, member, unreadable⟩ | columns
      · exact absurd (sound f member).1 unknown
      · exact absurd (sound f member).2 unreadable
      · exact columns
    obtain ⟨missing, failed⟩ := @project_eq_error s.columns
      (d.sheet.filterRows fun row => s.filters.all fun f => accepts s.ignoreCase d.sheet.header f row) columns
    refine ⟨.unknownField missing, ?_, by simp⟩
    rw [run, foldlM_narrow_eq_ok sound]
    simp [bind, Except.bind, failed]

theorem run_single {d : Dataset} {f : Filter} (column : f.field ∈ d.sheet.header) (readable : f.IsReadable)
    (ignoreCase : Bool) :
    ∃ selected, run { filters := [f], ignoreCase := ignoreCase } d = .ok selected
      ∧ selected.header = d.sheet.header
      ∧ selected.rows = d.sheet.rows.filter fun cells =>
        f.Admits ignoreCase (cells.getD (d.sheet.header.idxOf f.field) "") := by
  let s : Selection := { filters := [f], ignoreCase := ignoreCase }
  have sound : ¬s.IsFaulty d.sheet.header := by
    simp [s, IsFaulty, column, readable]
  have positions : s.positions d.sheet.header = List.range d.sheet.header.length := by
    simp [s, Selection.positions]
  obtain ⟨selected, ran, header, rows⟩ := run_eq_ok sound
  refine ⟨selected, ran, ?_, ?_⟩
  · rw [header, positions, restricted_range rfl]
  · rw [rows, positions]
    have kept : (d.sheet.rows.filter fun row => s.Keeps d.sheet.header row)
        = d.sheet.rows.filter fun cells =>
          f.Admits ignoreCase (cells.getD (d.sheet.header.idxOf f.field) "") := by
      refine List.filter_congr fun cells member => ?_
      have here : d.sheet.header.idxOf f.field < cells.length := by
        rw [d.sheet.rectangular cells member]
        exact List.idxOf_lt_length_of_mem column
      simp [s, Keeps, List.getElem?_eq_getElem here]
    rw [kept]
    refine (List.map_congr_left fun cells member => ?_).trans (List.map_id _)
    exact restricted_range (d.sheet.rectangular cells (List.mem_filter.1 member).1)

/-! ## Adding filters and columns -/

/-- Something that is added to a selection. -/
inductive Addition where
  | filter (f : Filter)
  | column (name : String)

/-- Adds a filter or a column. -/
def add (s : Selection) : Addition → Selection
  | .filter f => s.addFilter f
  | .column name => s.addColumn name

/-- Adds filters and columns one after the other. -/
def addAll (s : Selection) (additions : List Addition) : Selection := additions.foldl add s

theorem mem_filters_addAll {s : Selection} {additions : List Addition} {f : Filter} :
    f ∈ (s.addAll additions).filters ↔ f ∈ s.filters ∨ .filter f ∈ additions := by
  induction additions generalizing s with
  | nil => simp [addAll]
  | cons addition additions ih =>
      refine (@ih (s.add addition)).trans ?_
      cases addition with
      | column name => by_cases known : name ∈ s.columns <;> simp [add, addColumn, known]
      | filter g => by_cases known : g ∈ s.filters <;> simp [add, addFilter, Filter.addTo, known] <;> grind

theorem mem_columns_addAll {s : Selection} {additions : List Addition} {name : String} :
    name ∈ (s.addAll additions).columns ↔ name ∈ s.columns ∨ .column name ∈ additions := by
  induction additions generalizing s with
  | nil => simp [addAll]
  | cons addition additions ih =>
      refine (@ih (s.add addition)).trans ?_
      cases addition with
      | column other => by_cases known : other ∈ s.columns <;> simp [add, addColumn, known] <;> grind
      | filter g => by_cases known : g ∈ s.filters <;> simp [add, addFilter, Filter.addTo, known]

theorem ignoreCase_addAll (s : Selection) (additions : List Addition) :
    (s.addAll additions).ignoreCase = s.ignoreCase := by
  induction additions generalizing s with
  | nil => rfl
  | cons addition additions ih =>
      refine (ih (s.add addition)).trans ?_
      cases addition with
      | column name => simp only [add, addColumn]; split <;> rfl
      | filter g => rfl

/-- Success and answer depend only on which filters and columns a selection has. -/
theorem toOption_run_congr {s t : Selection} (d : Dataset) (filters : ∀ f, f ∈ s.filters ↔ f ∈ t.filters)
    (columns : ∀ name, name ∈ s.columns ↔ name ∈ t.columns) (ignoreCase : s.ignoreCase = t.ignoreCase) :
    (s.run d).toOption = (t.run d).toOption := by
  have faulty : s.IsFaulty d.sheet.header ↔ t.IsFaulty d.sheet.header := by simp only [IsFaulty, filters, columns]
  by_cases fault : s.IsFaulty d.sheet.header
  · obtain ⟨_, failed, _⟩ := run_eq_error fault
    obtain ⟨_, failed', _⟩ := run_eq_error (faulty.1 fault)
    rw [failed, failed']
    rfl
  · obtain ⟨answer, ran, header, rows⟩ := run_eq_ok fault
    obtain ⟨answer', ran', header', rows'⟩ := run_eq_ok (mt faulty.2 fault)
    have keeps : ∀ row, s.Keeps d.sheet.header row ↔ t.Keeps d.sheet.header row := by
      intro row
      simp only [Keeps, filters, ignoreCase]
    have empty : s.columns.isEmpty = t.columns.isEmpty := by
      rw [Bool.eq_iff_iff, List.isEmpty_iff, List.isEmpty_iff, List.eq_nil_iff_forall_not_mem,
        List.eq_nil_iff_forall_not_mem]
      simp only [columns]
    have positions : s.positions d.sheet.header = t.positions d.sheet.header := by
      apply List.filter_congr
      intro index _
      rw [empty, Bool.eq_iff_iff]
      simp [columns]
    have same : answer = answer' := by
      apply Sheet.ext
      · rw [header, header', positions]
      · rw [rows, rows', positions]
        simp only [keeps]
    rw [ran, ran', same]

/-- A selection fails exactly if it asks for what the header does not have or for what cannot be read, and its
    answer is never a broken rectangle. Otherwise it answers the rows that every filter admits on the first column
    of its name, in the sheet's order and cut down to the positions asked for. What is added is asked for on top of what
    has been asked for, and neither its order nor adding it again makes a difference. -/
theorem run_characterization (s : Selection) (d : Dataset) :
    ((∃ e, s.run d = .error e) ↔ s.IsFaulty d.sheet.header) ∧
    (∀ row expected found, s.run d ≠ .error (.ragged row expected found)) ∧
    (∀ answer, s.run d = .ok answer →
      answer.header = restricted (s.positions d.sheet.header) d.sheet.header ∧
      answer.rows = (d.sheet.rows.filter fun row => s.Keeps d.sheet.header row).map
        (restricted (s.positions d.sheet.header))) ∧
    (∀ additions : List Addition,
      (∀ f, f ∈ (s.addAll additions).filters ↔ f ∈ s.filters ∨ .filter f ∈ additions) ∧
      (∀ name, name ∈ (s.addAll additions).columns ↔ name ∈ s.columns ∨ .column name ∈ additions) ∧
      (s.addAll additions).ignoreCase = s.ignoreCase) ∧
    (∀ additions additions' : List Addition, (∀ a, a ∈ additions ↔ a ∈ additions') →
      ((s.addAll additions).run d).toOption = ((s.addAll additions').run d).toOption) := by
  refine ⟨?_, ?_, ?_, fun additions => ⟨fun f => mem_filters_addAll, fun name => mem_columns_addAll,
    ignoreCase_addAll s additions⟩, ?_⟩
  · constructor
    · rintro ⟨e, failed⟩
      by_contra sound
      obtain ⟨answer, ran, _⟩ := run_eq_ok sound
      simp [ran] at failed
    · intro fault
      obtain ⟨e, failed, _⟩ := run_eq_error fault
      exact ⟨e, failed⟩
  · intro row expected found ragged
    by_cases fault : s.IsFaulty d.sheet.header
    · obtain ⟨e, failed, cause⟩ := run_eq_error fault
      rw [failed] at ragged
      exact cause row expected found (Except.error.inj ragged)
    · obtain ⟨answer, ran, _⟩ := run_eq_ok fault
      simp [ran] at ragged
  · intro answer ran
    by_cases fault : s.IsFaulty d.sheet.header
    · obtain ⟨e, failed, _⟩ := run_eq_error fault
      simp [failed] at ran
    · obtain ⟨answer', ran', told⟩ := run_eq_ok fault
      rw [ran] at ran'
      cases ran'
      exact told
  · intro additions additions' same
    -- Only the membership of filters and columns tells, and neither order nor repeats change it.
    apply toOption_run_congr
    · intro f
      rw [mem_filters_addAll, mem_filters_addAll, same]
    · intro name
      rw [mem_columns_addAll, mem_columns_addAll, same]
    · rw [ignoreCase_addAll, ignoreCase_addAll]

/-- Scores with two columns of one name. -/
def scores : Dataset := ⟨"scores", ⟨["name", "points", "name"], [["Ann", "7", "a"], ["Bob", "9", "b"]], by decide⟩⟩

/-- A filter and a column are added in both orders, and one of them twice. Both columns of the name are answered. -/
theorem run_characterization_scores :
    let many : Addition := .filter ⟨"points", .numeric .greater, "8"⟩
    let named : Addition := .column "name"
    let s : Selection := addAll {} [many, named]
    (∃ answer : Sheet, s.run scores = .ok answer ∧ answer.header = ["name", "name"] ∧ answer.rows = [["Bob", "b"]])
      ∧ (s.run scores).toOption = ((addAll {} [named, many, named]).run scores).toOption := by
  intro many named s
  obtain ⟨_, _, answers, _, _⟩ := run_characterization s scores
  obtain ⟨_, _, _, _, same⟩ := run_characterization {} scores
  refine ⟨?_, same _ _ fun a => by simp [or_comm]⟩
  have runs : (s.run scores).isOk = true := by decide +kernel
  cases ran : s.run scores with
  | error e => simp [ran, Except.isOk, Except.toBool] at runs
  | ok answer =>
      obtain ⟨header, rows⟩ := answers answer ran
      exact ⟨answer, rfl, header.trans (by decide), rows.trans (by decide +kernel)⟩

end Selection

end Datasheet
