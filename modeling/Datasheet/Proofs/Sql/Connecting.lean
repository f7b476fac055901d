import Mathlib.Data.List.Basic
import Mathlib.Data.List.GetD
import Datasheet.Proofs.Sql.Building
import Datasheet.Proofs.Sql.Reading
import Datasheet.Sql.Engine

/-! # Connected engines

An engine connects only if it can read the names of its table and of its columns and can tell the columns apart
in any letter case. A field of a builder then stands for its own column wherever a query names it, and a session
answers every request by what the engine says to the text of the request's query.
-/

namespace Datasheet.Sql

/-! ## Names -/

theorem Name.token_ofText (name : String) : (Name.ofText name).token = Token.ofName name := rfl

theorem Token.isPlain_ofName (name : String) : (Token.ofName name).IsPlain := by
  rw [Token.ofName]
  split
  next => trivial
  next plain => simpa [needsQuoting, Token.IsPlain] using plain

theorem Token.spell_singleton (t : Token) : spell [t] = t.spelling := rfl

theorem nulFree_of_ofName {name : String} (clean : (Token.ofName name).IsNulFree) : NulFree name := by
  have spelled := spelling_nulFree (Token.isPlain_ofName name) clean
  rw [Token.ofName] at clean spelled
  split at clean
  next => exact clean
  next plain =>
      rw [if_neg plain] at spelled
      exact spelled

namespace Engine

theorem isTable_of_readName? {name : String} (read : (readName? name).isSome) :
    NulFree name ∧ (Name.ofText name).IsTable := by
  have plain : ∀ t ∈ [Token.ofName name], t.IsPlain := by simpa using Token.isPlain_ofName name
  rw [readName?, ← Token.spell_singleton] at read
  split at read
  next t lexed =>
      have nulFree := nulFree_of_lex_spell plain (by rw [lexed]; rfl)
      have same : [Token.ofName name] = [t] := Option.some.inj ((lex_spell plain nulFree).symm.trans lexed)
      obtain rfl := List.singleton_inj.1 same
      refine ⟨nulFree_of_ofName (nulFree _ List.mem_cons_self), ?_⟩
      rw [Name.IsTable, Name.token_ofText]
      rw [Token.ofName] at read ⊢
      rw [Name.ofText]
      cases quoting : needsQuoting name with
      | true => rfl
      | false =>
          simp only [quoting, Bool.false_eq_true, if_false, Name.ofToken?] at read ⊢
          split at read
          next => exact absurd read (by decide)
          next free => rw [if_neg free]
  next => exact absurd read (by decide)

theorem duplicate?_eq_none {found columns : List String} (absent : duplicate? found columns = none) :
    (∀ c ∈ columns, ∀ d ∈ found, sameName c d = false) ∧ columns.Pairwise fun c d => sameName d c = false := by
  induction columns generalizing found with
  | nil => simp
  | cons c columns ih =>
      rw [duplicate?] at absent
      split at absent
      next => exact absurd absent (by simp)
      next fresh =>
          obtain ⟨apart, distinct⟩ := ih absent
          have first : ∀ d ∈ found, sameName c d = false := by simpa using fresh
          refine ⟨List.forall_mem_cons.2 ⟨first, fun d member => ?_⟩, List.pairwise_cons.2 ⟨fun d member => ?_, distinct⟩⟩
          · exact fun other inside => apart d member other (List.mem_cons_of_mem _ inside)
          · exact apart d member c List.mem_cons_self

/-- What an engine has checked when it connects. -/
structure Checked (e : Engine) : Prop where
  table : (Name.ofText e.tableName).IsTable
  tableNulFree : NulFree e.tableName
  columns : ∀ c ∈ e.dataset.sheet.header, (Name.ofText c).IsTable
  columnsNulFree : ∀ c ∈ e.dataset.sheet.header, NulFree c
  distinct : e.dataset.sheet.header.Pairwise fun c d => sameName d c = false
  hasColumns : e.dataset.sheet.header ≠ []
  few : e.dataset.sheet.header.length ≤ columnLimit

theorem fault?_eq_none {e : Engine} (faultless : e.fault? = none) :
    (readName? e.tableName).isSome ∧ (∀ c ∈ e.dataset.sheet.header, (readName? c).isSome)
      ∧ e.dataset.sheet.header.length ≤ columnLimit ∧ duplicate? [] e.dataset.sheet.header = none := by
  simp only [fault?, ite_eq_iff, reduceCtorEq, and_false, false_or, Option.map_eq_none_iff] at faultless
  obtain ⟨table, columns, _, few, distinct⟩ := faultless
  refine ⟨?_, ?_, Nat.le_of_not_lt few, distinct⟩
  · simp only [Bool.or_eq_true, not_or] at table
    simpa [Option.isSome_iff_ne_none] using table.1
  · simpa [Option.isSome_iff_ne_none] using columns

theorem checked_of_connect {e : Engine} (connected : e.connect = .ok true) : e.Checked := by
  rw [connect] at connected
  split at connected
  next => exact absurd connected (by simp)
  next hasColumns =>
      cases fault : e.fault? with
      | some _ => simp [fault] at connected
      | none =>
          obtain ⟨table, columns, few, distinct⟩ := fault?_eq_none fault
          exact {
            table := (isTable_of_readName? table).2
            tableNulFree := (isTable_of_readName? table).1
            columns := fun c member => (isTable_of_readName? (columns c member)).2
            columnsNulFree := fun c member => (isTable_of_readName? (columns c member)).1
            distinct := (duplicate?_eq_none distinct).2
            hasColumns := by simpa using hasColumns
            few := few }

/-- No column has the name of a keyword that begins an expression. Of the keywords that are never names the
    engine makes sure itself. -/
def HasPlainColumns (e : Engine) : Prop := ∀ c ∈ e.dataset.sheet.header, upperWord c ∉ expressionWords

instance (e : Engine) : Decidable e.HasPlainColumns :=
  inferInstanceAs (Decidable (∀ c ∈ e.dataset.sheet.header, upperWord c ∉ expressionWords))

/-- A column that can be named in an expression. -/
def IsPlainColumn (e : Engine) (c : String) : Prop := c ∈ e.dataset.sheet.header ∧ upperWord c ∉ expressionWords

instance (e : Engine) (c : String) : Decidable (e.IsPlainColumn c) :=
  inferInstanceAs (Decidable (c ∈ e.dataset.sheet.header ∧ upperWord c ∉ expressionWords))

theorem HasPlainColumns.isPlainColumn {e : Engine} (plain : e.HasPlainColumns) {c : String}
    (member : c ∈ e.dataset.sheet.header) : e.IsPlainColumn c := ⟨member, plain c member⟩

theorem Checked.isColumn {e : Engine} (checked : e.Checked) {c : String} (column : e.IsPlainColumn c) :
    (Name.ofText c).IsColumn := by
  have table := checked.columns c column.1
  rw [Name.IsTable] at table
  rw [Name.IsColumn]
  rw [Name.token_ofText, Token.ofName, Name.ofText] at *
  cases quoting : needsQuoting c with
  | true => rfl
  | false =>
      simp only [quoting, Bool.false_eq_true, if_false] at table ⊢
      rw [Name.ofExpression?]
      split
      next => rfl
      next => rw [if_neg (by simpa using column.2), table]

/-! ## Columns -/

theorem findIdx?_sameName {columns : List String} (distinct : columns.Pairwise fun c d => sameName d c = false)
    {field : String} (member : field ∈ columns) : columns.findIdx? (sameName field) = some (columns.idxOf field) := by
  induction columns with
  | nil => exact absurd member List.not_mem_nil
  | cons c columns ih =>
      obtain ⟨first, rest⟩ := List.pairwise_cons.1 distinct
      by_cases same : c = field
      · subst same
        simp [List.findIdx?_cons, sameName]
      · have member : field ∈ columns := (List.mem_cons.1 member).resolve_left (Ne.symm same)
        rw [List.findIdx?_cons, first field member, ih rest member, List.idxOf_cons_ne _ same]
        rfl

theorem isSome_keywordValue? {clock : Clock} {name : String} :
    (keywordValue? clock ⟨name, false⟩).isSome ↔ upperWord name ∈ valueWords := by
  simp only [keywordValue?, isKeyword, beq_iff_eq, Bool.false_eq_true, if_false, valueWords, clockWords, List.mem_cons,
    List.not_mem_nil, or_false]
  grind

theorem Checked.keywordValue?_ofText {e : Engine} (checked : e.Checked) {field : String}
    (column : e.IsPlainColumn field) : keywordValue? e.clock (Name.ofText field) = none := by
  have table := checked.columns field column.1
  rw [Name.IsTable, Name.token_ofText, Token.ofName] at table
  rw [Name.ofText]
  cases quoting : needsQuoting field with
  | true => rfl
  | false =>
      rw [← Option.not_isSome_iff_eq_none, isSome_keywordValue?, valueWords, List.mem_cons, not_or]
      refine ⟨fun null => ?_, fun clock => column.2 (List.mem_append_right _ clock)⟩
      simp [quoting, Name.ofToken?, null, reservedWords] at table

/-- A field stands for its own column. -/
theorem Checked.resolve?_ofText {e : Engine} (checked : e.Checked) {field : String} (column : e.IsPlainColumn field) :
    e.table.resolve? (Name.ofText field) = some (.column (e.dataset.sheet.header.idxOf field)) := by
  have found : e.table.columns.findIdx? (sameName (Name.ofText field).text)
      = some (e.dataset.sheet.header.idxOf field) := findIdx?_sameName checked.distinct column.1
  have noKeyword : keywordValue? e.table.clock (Name.ofText field) = none := checked.keywordValue?_ofText column
  rw [Table.resolve?, noKeyword, found]

/-- The cell of a row under a field. -/
def cell (e : Engine) (field : String) (row : Row) : String :=
  row.cells.getD (e.dataset.sheet.header.idxOf field) ""

theorem Checked.value_ofText {e : Engine} (checked : e.Checked) {field : String} (column : e.IsPlainColumn field)
    (row : Row) : e.table.value row (Name.ofText field) = .text (e.cell field row) := by
  rw [Table.value, checked.resolve?_ofText column]
  rfl

theorem getD_idxOf {names : List String} {name : String} (member : name ∈ names) :
    names.getD (names.idxOf name) "" = name := by
  have here := List.idxOf_lt_length_of_mem member
  rw [List.getD_eq_getElem _ _ here, List.getElem_idxOf here]

theorem Checked.heading_ofText {e : Engine} (checked : e.Checked) {field : String} (column : e.IsPlainColumn field) :
    e.table.heading (Name.ofText field) = field := by
  rw [Table.heading, checked.resolve?_ofText column]
  exact getD_idxOf column.1

/-! ## Sessions -/

/-- What a session over the engine answers to a request. -/
def reply (e : Engine) (b : QueryBuilder) (request : Request) : Except Error Sheet :=
  match b.text request with
  | .error fault => .error (.generation fault)
  | .ok sql => e.answer sql

/-- A session over an engine that connects always finds an open connection for its query. -/
theorem ensureOpen_backend {e : Engine} (connected : e.connect = .ok true) (s : Session Unit Bool) :
    (s.ensureOpen e.backend).1 = .ok true := by
  have fresh (s : Session Unit Bool) : (s.connect e.backend).1 = .ok true := by
    simp [Session.connect, backend, connected]
  rw [Session.ensureOpen]
  cases s.connection with
  | none => exact fresh s
  | some isOpen =>
      cases isOpen with
      | true => rfl
      | false => exact fresh _

theorem ask_backend {e : Engine} (connected : e.connect = .ok true) (s : Session Unit Bool) (b : QueryBuilder)
    (request : Request) : (s.ask e.backend b request).1 = e.reply b request := by
  rw [Session.ask, reply]
  cases b.text request with
  | error fault => rfl
  | ok sql =>
      have opened := ensureOpen_backend connected (s.report [.queryGenerated sql])
      change ((s.report [.queryGenerated sql]).execute e.backend sql).1 = e.answer sql
      rw [Session.execute]
      split
      next fault _ found =>
          rw [found] at opened
          exact absurd opened (by simp)
      next isOpen _ found =>
          rw [found] at opened
          obtain rfl := Except.ok.inj opened
          simp only [backend, query, if_true]
          cases e.answer sql <;> rfl

end Engine

end Datasheet.Sql
