import Datasheet.Proofs.Selection.Meaning
import Mathlib.Data.List.InsertIdx

/-! # Removing columns

Columns are removed one after the other, by name or by position, and positions shift with every removal. What is
left after any row of calls is the original table cut down to the positions that survive, the same ones in the
header and in each row. The survivors are followed here by their original positions, which do not shift.
-/

namespace Datasheet

open Selection (restricted)

namespace Dataset

/-- The dataset after a call. A call that fails leaves it as it is. -/
def afterCall (d : Dataset) (column : ColumnRef) : Dataset :=
  match d.removeColumn column with
  | .ok (_, rest) => rest
  | .error _ => d

/-- The dataset after a row of calls. -/
def afterCalls (d : Dataset) (calls : List ColumnRef) : Dataset := calls.foldl afterCall d

/-- The surviving positions of a header after one more call: a name strikes the first survivor that has it, a
    position strikes the survivor that stands there now. -/
def strike (header : List String) (kept : List Nat) : ColumnRef → List Nat
  | .named name => kept.eraseP fun position => header.getD position "" == name
  | .at index => kept.eraseIdx index

/-- The original positions that survive a row of calls. -/
def survivors (header : List String) (calls : List ColumnRef) : List Nat :=
  calls.foldl (strike header) (List.range header.length)

/-- What a call may answer when some positions are left, and which positions it leaves. -/
inductive Call (header : List String) : List Nat → ColumnRef → Except Error String → List Nat → Prop where
  /-- A name removes the first surviving column of that name. -/
  | named {before after : List Nat} {position : Nat} {name : String} (found : header[position]? = some name)
      (first : ∀ other ∈ before, header[other]? ≠ some name) :
      Call header (before ++ position :: after) (.named name) (.ok name) (before ++ after)
  | unknown {kept : List Nat} {name : String} (absent : ∀ position ∈ kept, header[position]? ≠ some name) :
      Call header kept (.named name) (.error (.unknownField name)) kept
  /-- A position removes the surviving column that stands there. -/
  | at {before after : List Nat} {position : Nat} {name : String} (found : header[position]? = some name) :
      Call header (before ++ position :: after) (.at before.length) (.ok name) (before ++ after)
  | outside {kept : List Nat} {index : Nat} (beyond : kept.length ≤ index) :
      Call header kept (.at index) (.error (.unknownField ("#" ++ index.repr))) kept

/-- A dataset holds the columns of a table at some positions of its header, in their order. -/
structure Holds (d : Dataset) (header : List String) (rows : List (List String)) (kept : List Nat) : Prop where
  inOrder : kept.Sublist (List.range header.length)
  header_eq : d.sheet.header = restricted kept header
  rows_eq : d.sheet.rows = rows.map (restricted kept)

section

variable {d : Dataset} {name : String} {header : List String} {rows : List (List String)} {kept : List Nat}
  {before after : List Nat} {position index : Nat} {column : ColumnRef} {e : Error}

theorem afterCalls_concat (d : Dataset) (calls : List ColumnRef) (column : ColumnRef) :
    d.afterCalls (calls ++ [column]) = (d.afterCalls calls).afterCall column := by
  simp [afterCalls]

theorem survivors_concat (header : List String) (calls : List ColumnRef) (column : ColumnRef) :
    survivors header (calls ++ [column]) = strike header (survivors header calls) column := by
  simp [survivors]

theorem length_restricted (kept : List Nat) (cells : List String) : (restricted kept cells).length = kept.length :=
  List.length_map _

theorem restricted_eraseIdx_kept (kept : List Nat) (index : Nat) (cells : List String) :
    restricted (kept.eraseIdx index) cells = (restricted kept cells).eraseIdx index :=
  (List.eraseIdx_map _ _ _).symm

theorem of_ofRows (made : Dataset.ofRows name header rows = .ok d) :
    ∃ rectangular : ∀ row ∈ rows, row.length = header.length, d = ⟨name, header, rows, rectangular⟩ := by
  unfold Dataset.ofRows at made
  cases sheet : Sheet.ofRows header rows with
  | error fault =>
      rw [sheet] at made
      cases made
  | ok s =>
      obtain ⟨rectangular, rfl⟩ := Sheet.eq_of_ofRows sheet
      rw [sheet] at made
      cases made
      exact ⟨rectangular, rfl⟩

/-! ## One call -/

theorem removeColumn_of_resolve (found : d.resolve column = .ok index) :
    d.removeColumn column = .ok (d.sheet.header.getD index "", d.afterCall column) ∧
      d.afterCall column = ⟨d.name, d.sheet.eraseColumn index⟩ := by
  simp [afterCall, removeColumn, found, bind, Except.bind]

theorem removeColumn_of_unresolved (missing : d.resolve column = .error e) :
    d.removeColumn column = .error e ∧ d.afterCall column = d := by
  simp [afterCall, removeColumn, missing, bind, Except.bind]

namespace Holds

theorem whole (made : Dataset.ofRows name header rows = .ok d) : d.Holds header rows (List.range header.length) := by
  obtain ⟨rectangular, rfl⟩ := of_ofRows made
  refine ⟨.refl _, (Selection.restricted_range rfl).symm, ?_⟩
  rw [List.map_congr_left fun row member => Selection.restricted_range (rectangular row member), List.map_id']

theorem unique {d' : Dataset} (held : d.Holds header rows kept) (held' : d'.Holds header rows kept)
    (called : d.name = d'.name) : d = d' := by
  cases d with
  | mk name sheet =>
      cases called
      have same : sheet = d'.sheet :=
        Sheet.ext (held.header_eq.trans held'.header_eq.symm) (held.rows_eq.trans held'.rows_eq.symm)
      rw [same]

theorem named_iff (held : d.Holds header rows kept) (member : position ∈ kept) :
    header[position]? = some name ↔ header.getD position "" = name := by
  have inside : position < header.length := List.mem_range.1 (held.inOrder.mem member)
  simp [inside]

theorem eraseColumn (held : d.Holds header rows kept) (index : Nat) :
    Holds ⟨name, d.sheet.eraseColumn index⟩ header rows (kept.eraseIdx index) where
  inOrder := (List.eraseIdx_sublist kept index).trans held.inOrder
  header_eq := by rw [restricted_eraseIdx_kept, ← held.header_eq]; rfl
  rows_eq := by
    show d.sheet.rows.map _ = _
    rw [held.rows_eq, List.map_map]
    apply List.map_congr_left
    intro row _
    exact (restricted_eraseIdx_kept kept index row).symm

theorem resolve_named (held : d.Holds header rows (before ++ position :: after))
    (first : ∀ other ∈ before, header.getD other "" ≠ name) (here : header.getD position "" = name) :
    d.resolve (.named name) = .ok before.length := by
  have layout : d.sheet.header = restricted before header ++ name :: restricted after header := by
    rw [held.header_eq, ← here]
    exact List.map_append
  have foreign : name ∉ restricted before header := by
    intro member
    obtain ⟨other, inside, same⟩ := List.mem_map.1 member
    exact first other inside same
  have found : d.sheet.column? name = some before.length := by
    rw [Sheet.column?_eq_some (by simp [layout]), layout, List.idxOf_append_of_notMem foreign, List.idxOf_cons_self,
      Nat.add_zero, length_restricted]
  simp [resolve, found]

theorem resolve_unknown (held : d.Holds header rows kept)
    (absent : ∀ position ∈ kept, header.getD position "" ≠ name) :
    d.resolve (.named name) = .error (.unknownField name) := by
  have foreign : name ∉ d.sheet.header := by
    rw [held.header_eq]
    intro member
    obtain ⟨position, inside, here⟩ := List.mem_map.1 member
    exact absent position inside here
  simp [resolve, Sheet.column?_eq_none foreign]

theorem getD_header (held : d.Holds header rows (before ++ position :: after)) :
    d.sheet.header.getD before.length "" = header.getD position "" := by
  simp [held.header_eq, restricted]

theorem struck (held : d.Holds header rows (before ++ position :: after)) (found : d.resolve column = .ok before.length) :
    d.removeColumn column = .ok (header.getD position "", d.afterCall column) ∧
      (d.afterCall column).name = d.name ∧ (d.afterCall column).Holds header rows (before ++ after) := by
  obtain ⟨removed, left⟩ := removeColumn_of_resolve found
  have erased : Holds ⟨d.name, d.sheet.eraseColumn before.length⟩ header rows _ := held.eraseColumn before.length
  rw [List.eraseIdx_append_of_length_le (Nat.le_refl _), Nat.sub_self, List.eraseIdx_cons_zero] at erased
  rw [held.getD_header] at removed
  rw [← left] at erased
  exact ⟨removed, by rw [left], erased⟩

/-- A call strikes a survivor or fails, and the columns at the survivors are left. -/
theorem call (held : d.Holds header rows kept) (column : ColumnRef) :
    Call header kept column ((d.removeColumn column).map (·.1)) (strike header kept column) ∧
      (d.afterCall column).name = d.name ∧ (d.afterCall column).Holds header rows (strike header kept column) := by
  cases column with
  | named name =>
      rcases List.exists_or_eq_self_of_eraseP (fun position => header.getD position "" == name) kept with
        unchanged | ⟨position, before, after, first, here, rfl, struck⟩
      · have absent : ∀ position ∈ kept, header.getD position "" ≠ name := by
          simpa using List.eraseP_eq_self_iff.1 unchanged
        obtain ⟨failed, same⟩ := removeColumn_of_unresolved (held.resolve_unknown absent)
        rw [failed, same, strike, unchanged]
        refine ⟨.unknown ?_, rfl, held⟩
        intro position member named
        exact absent position member ((held.named_iff member).1 named)
      · have first : ∀ other ∈ before, header.getD other "" ≠ name := by simpa using first
        have here : header.getD position "" = name := by simpa using here
        -- The first survivor of the name stands where the first column of the name is now.
        obtain ⟨removed, left⟩ := held.struck (held.resolve_named first here)
        rw [removed, here, show strike header _ (.named name) = before ++ after from struck]
        refine ⟨.named ?_ ?_, left⟩
        · exact (held.named_iff (by simp)).2 here
        · intro other member named
          exact first other member ((held.named_iff (List.mem_append_left _ member)).1 named)
  | «at» index =>
      have width : d.sheet.header.length = kept.length := by rw [held.header_eq, length_restricted]
      by_cases inside : index < kept.length
      · obtain ⟨before, position, after, split, rfl⟩ :
            ∃ before position after, kept = before ++ position :: after ∧ before.length = index :=
          ⟨kept.take index, kept[index], kept.drop (index + 1), by simp, by simp; omega⟩
        subst split
        have found : d.resolve (.at before.length) = .ok before.length := by simp [resolve, width]
        obtain ⟨removed, left⟩ := held.struck found
        have struck : strike header (before ++ position :: after) (.at before.length) = before ++ after := by
          simp [strike, List.eraseIdx_append_of_length_le]
        rw [removed, struck]
        exact ⟨.at ((held.named_iff (by simp)).2 rfl), left⟩
      · have missing : d.resolve (.at index) = .error (.unknownField ("#" ++ index.repr)) := by
          simp [resolve, width, inside]
        obtain ⟨failed, same⟩ := removeColumn_of_unresolved missing
        rw [failed, same, strike, List.eraseIdx_of_length_le (Nat.le_of_not_lt inside)]
        exact ⟨.outside (Nat.le_of_not_lt inside), rfl, held⟩

end Holds

/-! ## Rows of calls -/

/-- Whatever is called, the columns at the surviving positions are left. -/
theorem holds_afterCalls (made : Dataset.ofRows name header rows = .ok d) (calls : List ColumnRef) :
    (d.afterCalls calls).name = name ∧ (d.afterCalls calls).Holds header rows (survivors header calls) := by
  -- Induction on the calls so far: the survivors that are left are the columns that the dataset still has.
  induction calls using List.reverseRecOn with
  | nil =>
      obtain ⟨_, rfl⟩ := of_ofRows made
      exact ⟨rfl, Holds.whole made⟩
  | append_singleton calls column ih =>
      obtain ⟨called, held⟩ := ih
      obtain ⟨_, same, left⟩ := held.call column
      rw [afterCalls_concat, survivors_concat]
      exact ⟨same.trans called, left⟩

theorem strike_named (distinct : (restricted kept header).Nodup) :
    strike header kept (.named name) = kept.filter fun position => header.getD position "" ≠ name := by
  induction kept with
  | nil => rfl
  | cons position kept ih =>
      obtain ⟨fresh, distinct⟩ := List.nodup_cons.1 distinct
      by_cases here : header.getD position "" = name
      · have others : kept.filter (fun position => header.getD position "" ≠ name) = kept := by
          apply List.filter_eq_self.2
          intro other member
          rw [decide_eq_true_iff]
          intro same
          exact fresh (List.mem_map.2 ⟨other, member, same.trans here.symm⟩)
        rw [strike, List.eraseP_cons_of_pos (by simpa using here), List.filter_cons_of_neg (by simpa using here), others]
      · have rest : kept.eraseP _ = kept.filter _ := ih distinct
        rw [strike, List.eraseP_cons_of_neg (by simpa using here), List.filter_cons_of_pos (by simpa using here), rest]

/-- Under distinct names, the order in which names are struck makes no difference. -/
theorem foldl_strike_named (distinct : (restricted kept header).Nodup) (names : List String) :
    (names.map .named).foldl (strike header) kept = kept.filter fun position => header.getD position "" ∉ names := by
  induction names generalizing kept with
  | nil => simp
  | cons name names ih =>
      have fewer : (restricted (strike header kept (.named name)) header).Nodup :=
        List.Nodup.sublist (List.eraseP_sublist.map _) distinct
      rw [List.map_cons, List.foldl_cons, ih fewer, strike_named distinct, List.filter_filter]
      apply List.filter_congr
      intro position _
      simp [Bool.and_comm]

theorem survivors_named (distinct : header.Nodup) (names : List String) :
    survivors header (names.map .named) =
      (List.range header.length).filter fun position => header.getD position "" ∉ names :=
  foldl_strike_named (by rwa [Selection.restricted_range rfl]) names

theorem restricted_filter (p : String → Bool) :
    restricted ((List.range header.length).filter fun position => p (header.getD position "")) header =
      header.filter p := by
  have whole : header = restricted (List.range header.length) header := (Selection.restricted_range rfl).symm
  conv_rhs => rw [whole, restricted, List.filter_map]
  rfl

/-- Asking for the columns that are left selects the survivors. -/
theorem positions_eq (s : Selection) {names : List String} (some_asked : s.columns ≠ [])
    (asked : ∀ column, column ∈ s.columns ↔ column ∈ header ∧ column ∉ names) :
    s.positions header = (List.range header.length).filter fun position => header.getD position "" ∉ names := by
  apply List.filter_congr
  intro position member
  have named : header.getD position "" ∈ header := by
    have inside : position < header.length := List.mem_range.1 member
    simp [inside]
  have wanted : s.columns.isEmpty = false := by simpa using some_asked
  rw [wanted, Bool.false_or, List.contains_eq_mem, decide_eq_decide, asked]
  exact and_iff_right named

theorem run_unfiltered {s : Selection} (unfiltered : s.filters = [])
    (known : ∀ column ∈ s.columns, column ∈ d.sheet.header) :
    ∃ answer, s.run d = .ok answer ∧ answer.header = restricted (s.positions d.sheet.header) d.sheet.header ∧
      answer.rows = d.sheet.rows.map (restricted (s.positions d.sheet.header)) := by
  have sound : ¬s.IsFaulty d.sheet.header := by
    simpa [Selection.IsFaulty, unfiltered] using known
  have all : (d.sheet.rows.filter fun row => s.Keeps d.sheet.header row) = d.sheet.rows := by
    apply List.filter_eq_self.2
    intro row _
    simp [Selection.Keeps, unfiltered]
  have ran := Selection.run_eq_ok sound
  rwa [all] at ran

theorem run_columns_left (made : Dataset.ofRows name header rows = .ok d) (distinct : header.Nodup)
    {names : List String} {s : Selection} (unfiltered : s.filters = []) (some_asked : s.columns ≠ [])
    (asked : ∀ column, column ∈ s.columns ↔ column ∈ header ∧ column ∉ names) :
    s.run d = .ok (d.afterCalls (names.map .named)).sheet := by
  obtain ⟨_, held⟩ := holds_afterCalls made (names.map .named)
  have whole : d.sheet.header = header ∧ d.sheet.rows = rows := by
    obtain ⟨_, rfl⟩ := of_ofRows made
    exact ⟨rfl, rfl⟩
  have known : ∀ column ∈ s.columns, column ∈ d.sheet.header := by
    intro column member
    rw [whole.1]
    exact ((asked column).1 member).1
  obtain ⟨answer, ran, header_eq, rows_eq⟩ := run_unfiltered unfiltered known
  rw [whole.1, positions_eq s some_asked asked, ← survivors_named distinct] at header_eq rows_eq
  rw [whole.2] at rows_eq
  have same : answer = (d.afterCalls (names.map .named)).sheet :=
    Sheet.ext (header_eq.trans held.header_eq.symm) (rows_eq.trans held.rows_eq.symm)
  rw [ran, same]

/-- Whatever columns are removed, by name or by position, the table stays rectangular and loses no row: what is left
    is the original table cut down to the surviving positions, and a call that fails changes nothing. Under distinct
    names the order of removals by name makes no difference, and what is left is what a selection answers that asks
    for the columns left. -/
theorem removals_keep_rectangle (made : Dataset.ofRows name header rows = .ok d) :
    (∀ calls : List ColumnRef,
      (d.afterCalls calls).Holds header rows (survivors header calls) ∧
      (d.afterCalls calls).sheet.rows.length = rows.length ∧
      (∀ row ∈ (d.afterCalls calls).sheet.rows, row.length = (d.afterCalls calls).sheet.header.length) ∧
      ∀ column,
        Call header (survivors header calls) column (((d.afterCalls calls).removeColumn column).map (·.1))
          (survivors header (calls ++ [column])) ∧
        ∀ e, (d.afterCalls calls).removeColumn column = .error e →
          d.afterCalls (calls ++ [column]) = d.afterCalls calls) ∧
    (header.Nodup → ∀ names names' : List String, (∀ column, column ∈ names ↔ column ∈ names') →
      d.afterCalls (names.map .named) = d.afterCalls (names'.map .named) ∧
      (d.afterCalls (names.map .named)).sheet.header = header.filter (· ∉ names) ∧
      ∀ s : Selection, s.filters = [] → s.columns ≠ [] →
        (∀ column, column ∈ s.columns ↔ column ∈ (d.afterCalls (names.map .named)).sheet.header) →
        s.run d = .ok (d.afterCalls (names.map .named)).sheet) := by
  refine ⟨?_, ?_⟩
  · intro calls
    obtain ⟨_, held⟩ := holds_afterCalls made calls
    refine ⟨held, ?_, ?_, ?_⟩
    · rw [held.rows_eq, List.length_map]
    · intro row member
      rw [held.rows_eq] at member
      obtain ⟨original, _, rfl⟩ := List.mem_map.1 member
      rw [held.header_eq, length_restricted, length_restricted]
    · intro column
      refine ⟨?_, ?_⟩
      · rw [survivors_concat]
        exact (held.call column).1
      · intro e failed
        rw [afterCalls_concat, afterCall, failed]
  · intro distinct names names' same
    have header_left : (d.afterCalls (names.map .named)).sheet.header = header.filter (· ∉ names) := by
      rw [(holds_afterCalls made _).2.header_eq, survivors_named distinct]
      exact restricted_filter fun column => column ∉ names
    refine ⟨?_, header_left, ?_⟩
    · obtain ⟨called, held⟩ := holds_afterCalls made (names.map .named)
      obtain ⟨called', held'⟩ := holds_afterCalls made (names'.map .named)
      have kept : survivors header (names.map .named) = survivors header (names'.map .named) := by
        simp only [survivors_named distinct, same]
      rw [kept] at held
      exact held.unique held' (called.trans called'.symm)
    · intro s unfiltered some_asked asked
      apply run_columns_left made distinct unfiltered some_asked
      intro column
      rw [asked, header_left]
      simp

end

/-- A price list loses its last column and then its first one; a second removal of the first and a position beyond
    the end fail. -/
theorem removals_keep_rectangle_prices :
    ∃ d, Dataset.ofRows "prices" ["id", "item", "price"] [["1", "pen", "2"], ["2", "ink", "5"]] = .ok d ∧
      (d.afterCalls [.at 2, .named "id", .named "id", .at 7]).Holds ["id", "item", "price"]
        [["1", "pen", "2"], ["2", "ink", "5"]] [1] ∧
      Call ["id", "item", "price"] [1] (.named "id")
        (((d.afterCalls [.at 2, .named "id"]).removeColumn (.named "id")).map (·.1)) [1] ∧
      d.afterCalls [.named "price", .named "id"] = d.afterCalls [.named "id", .named "price", .named "id"] ∧
      ({ columns := ["item"] } : Selection).run d = .ok (d.afterCalls [.named "price", .named "id"]).sheet := by
  have made : ∃ d, Dataset.ofRows "prices" ["id", "item", "price"] [["1", "pen", "2"], ["2", "ink", "5"]] = .ok d :=
    ⟨_, rfl⟩
  obtain ⟨d, made⟩ := made
  obtain ⟨runs, orders⟩ := removals_keep_rectangle made
  obtain ⟨same, left, selected⟩ :=
    orders (by decide) ["price", "id"] ["id", "price", "id"] (by simp [or_comm])
  refine ⟨d, made, (runs [.at 2, .named "id", .named "id", .at 7]).1, ?_, same, ?_⟩
  · exact ((runs [.at 2, .named "id"]).2.2.2 (.named "id")).1
  · apply selected { columns := ["item"] } rfl (by decide)
    intro column
    have item : (["id", "item", "price"].filter fun column => column ∉ ["price", "id"]) = ["item"] := by decide
    rw [left, item]

end Dataset

end Datasheet
