import Datasheet.Proofs.Sql.Answering
import Datasheet.Proofs.Text.Folding

/-! # Datasets that an engine can hold

A dataset goes through an engine unchanged, whatever signs its names are made of, as long as none of them is a keyword
that the engine never takes for a name. A name is put in quotes for its signs only, and such a keyword is a plain word:
it stays without quotes, and the engine refuses the table.
-/

namespace Datasheet.Sql

open Text

/-! ## Names that are read -/

theorem startsWord_iff {c : Char} :
    startsWord c = true ↔ 65 ≤ c.toNat ∧ c.toNat ≤ 90 ∨ 97 ≤ c.toNat ∧ c.toNat ≤ 122 ∨ c.toNat = 95 := by
  have line : c = '_' ↔ c.toNat = 95 := ⟨fun same => same ▸ rfl, @char_ext c '_'⟩
  rw [startsWord, Bool.or_eq_true, isAlpha_iff, beq_iff_eq, line, or_assoc]

theorem continuesWord_iff {c : Char} :
    continuesWord c = true ↔ startsWord c = true ∨ 48 ≤ c.toNat ∧ c.toNat ≤ 57 := by
  have digit : c.isDigit = true ↔ 48 ≤ c.toNat ∧ c.toNat ≤ 57 := by simp [Char.isDigit, UInt32.le_iff_toNat_le]
  rw [← digit]
  simp only [continuesWord, startsWord, Char.isAlphanum, Bool.or_eq_true]
  tauto

theorem startsWord_upperAscii (c : Char) : startsWord (upperAscii c) = startsWord c := by
  rw [Bool.eq_iff_iff, startsWord_iff, startsWord_iff, toNat_upperAscii]
  grind

theorem continuesWord_upperAscii (c : Char) : continuesWord (upperAscii c) = continuesWord c := by
  rw [Bool.eq_iff_iff, continuesWord_iff, continuesWord_iff, startsWord_upperAscii, toNat_upperAscii]
  have starts := @startsWord_iff c
  grind

theorem needsQuoting_upperWord (name : String) : needsQuoting (upperWord name) = needsQuoting name := by
  rw [needsQuoting, needsQuoting, upperWord, String.toList_ofList]
  cases name.toList with
  | nil => rfl
  | cons c cs =>
      simp only [List.map_cons, isPlainWord, startsWord_upperAscii, List.all_map]
      simp only [Function.comp_def, continuesWord_upperAscii]

theorem needsQuoting_of_reserved {name : String} (reserved : upperWord name ∈ reservedWords) :
    needsQuoting name = false := by
  have plain : ∀ word ∈ reservedWords, needsQuoting word = false := by decide
  rw [← needsQuoting_upperWord]
  exact plain _ reserved

namespace Engine

/-- The engine reads a name exactly if it is no keyword that is never a name. -/
theorem isSome_readName?_iff {name : String} (clean : NulFree name) :
    (readName? name).isSome ↔ upperWord name ∉ reservedWords := by
  have plain : ∀ t ∈ [Token.ofName name], t.IsPlain := by simpa using Token.isPlain_ofName name
  have nulFree : ∀ t ∈ [Token.ofName name], t.IsNulFree := by
    refine List.forall_mem_singleton.2 ?_
    rw [Token.ofName]
    split
    next => exact clean
    next => trivial
  have lexed := lex_spell plain nulFree
  rw [Token.spell_singleton] at lexed
  rw [readName?, lexed]
  simp only [Token.ofName]
  split
  next quoted =>
      refine ⟨fun _ reserved => ?_, fun _ => rfl⟩
      rw [needsQuoting_of_reserved reserved] at quoted
      exact absurd quoted Bool.false_ne_true
  next =>
      rw [Name.ofToken?]
      by_cases reserved : upperWord name ∈ reservedWords <;> simp [reserved]

theorem duplicate?_eq_none_iff {found columns : List String} : duplicate? found columns = none ↔
    (∀ c ∈ columns, ∀ d ∈ found, sameName c d = false) ∧ columns.Pairwise fun c d => sameName d c = false := by
  refine ⟨duplicate?_eq_none, ?_⟩
  induction columns generalizing found with
  | nil => exact fun _ => rfl
  | cons c columns ih =>
      rintro ⟨apart, distinct⟩
      obtain ⟨first, rest⟩ := List.forall_mem_cons.1 apart
      obtain ⟨other, distinct⟩ := List.pairwise_cons.1 distinct
      have fresh : ¬found.any (sameName c) = true := by simpa using first
      rw [duplicate?, if_neg fresh]
      exact ih ⟨fun d member => List.forall_mem_cons.2 ⟨other d member, rest d member⟩, distinct⟩

variable {e : Engine}

/-- A table can be made if the engine reads all of its names, can tell its columns apart and has no use for its name. -/
theorem fault?_of_distinct (clean : ∀ name ∈ e.tableName :: e.dataset.sheet.header, NulFree name)
    (few : e.dataset.sheet.header.length ≤ columnLimit) (free : isReservedTable e.tableName = false)
    (distinct : e.dataset.sheet.header.Pairwise fun c d => sameName d c = false) :
    e.fault? = if upperWord e.tableName = "IF" ∨ ∃ name ∈ e.tableName :: e.dataset.sheet.header, upperWord name ∈ reservedWords
      then some .unreadable else none := by
  have read (name : String) (member : name ∈ e.tableName :: e.dataset.sheet.header) :
      (readName? name).isNone = decide (upperWord name ∈ reservedWords) := by
    have known := isSome_readName?_iff (clean name member)
    by_cases reserved : upperWord name ∈ reservedWords
    · simpa [reserved] using known
    · simpa [reserved, Option.isSome_iff_ne_none] using known
  have apart : duplicate? [] e.dataset.sheet.header = none := duplicate?_eq_none_iff.2 ⟨by simp, distinct⟩
  have columns : (e.dataset.sheet.header.any fun c => (readName? c).isNone) = true
      ↔ ∃ name ∈ e.dataset.sheet.header, upperWord name ∈ reservedWords := by
    rw [List.any_eq_true]
    refine exists_congr fun name => and_congr_right fun member => ?_
    rw [read name (List.mem_cons_of_mem _ member), decide_eq_true_eq]
  have table : ((readName? e.tableName).isNone || isKeyword "IF" e.tableName) = true
      ↔ upperWord e.tableName ∈ reservedWords ∨ upperWord e.tableName = "IF" := by
    rw [Bool.or_eq_true, read _ List.mem_cons_self, decide_eq_true_eq, isKeyword, beq_iff_eq]
  simp only [fault?, free, Nat.not_lt.2 few, apart, table, columns, List.exists_mem_cons_iff]
  by_cases reserved : upperWord e.tableName ∈ reservedWords <;> by_cases condition : upperWord e.tableName = "IF" <;>
    by_cases inside : ∃ name ∈ e.dataset.sheet.header, upperWord name ∈ reservedWords <;>
    simp [reserved, condition, inside]

/-! ## What a connection answers -/

theorem passing_nil (e : Engine) : e.Testable [] ∧ e.passing [] = e.table.rows := by
  refine ⟨fun row _ => ⟨true, rfl⟩, List.filter_eq_self.2 fun row _ => ?_⟩
  simp [Check.allHold]

variable {b : QueryBuilder} {request : Request}

/-- A request for rows that no filter restricts is answered from all rows of the table. -/
theorem reply_unfiltered (connected : e.connect = .ok true) (table : b.table = e.tableName) (unfiltered : b.filters = [])
    {names : List Name} (outlined : b.outline request = .ok ⟨.rows names none, [], none⟩)
    (named : ∀ name ∈ b.namedFields request, e.IsPlainColumn name) (few : names.length ≤ columnLimit) :
    e.reply b request = (Answer.rows names none).sheet e.table e.table.rows := by
  have checked := checked_of_connect connected
  have made : b.query request = .ok ⟨.rows names none, Name.ofText b.table, ([] : List Test).map .test⟩ := by
    refine QueryBuilder.query_eq_ok.2 ⟨_, outlined, by simp [unfiltered], ?_⟩
    rw [unfiltered]
    rfl
  have few : (Answer.rows names none).names.length ≤ columnLimit := few
  obtain ⟨testable, all⟩ := passing_nil e
  rw [reply_eq_answerOf checked table made named (by simp [unfiltered]) (by simp [unfiltered]) rfl,
    answerOf_tests few, plainAnswer_of_testable (by decide) testable, all]

theorem reply_all_unfiltered (connected : e.connect = .ok true) (table : b.table = e.tableName)
    (unfiltered : b.filters = []) : e.reply b .all = .ok e.dataset.sheet := by
  rw [reply_unfiltered connected table unfiltered rfl (by simp [QueryBuilder.namedFields]) (Nat.zero_le _),
    sheet_rows fun _ inside => inside, sheetOfRows_rows]

/-- An engine makes a table of a dataset unless one of its names is a keyword that is never a name, or the table has
    the name of the keyword that asks whether it is there. What it then answers without filters is the dataset itself, and
    any of its columns that expressions can name, cell by cell. -/
theorem hosts_unless_reserved (e : Engine) (hasColumns : e.dataset.sheet.header ≠ [])
    (few : e.dataset.sheet.header.length ≤ columnLimit)
    (clean : ∀ name ∈ e.tableName :: e.dataset.sheet.header, NulFree name)
    (distinct : e.dataset.sheet.header.Pairwise fun c d => upperWord c ≠ upperWord d)
    (free : isReservedTable e.tableName = false) :
    if upperWord e.tableName = "IF" ∨ ∃ name ∈ e.tableName :: e.dataset.sheet.header, upperWord name ∈ reservedWords then
      e.connect = .error (.refused .unreadable)
    else
      e.connect = .ok true
        ∧ ∀ (s : Session Unit Bool) (b : QueryBuilder), b.table = e.tableName → b.filters = [] →
          (s.ask e.backend b .all).1 = .ok e.dataset.sheet
            ∧ ∀ fields, fields ≠ [] → fields.length ≤ columnLimit →
              (∀ field ∈ fields, e.IsPlainColumn field ∧ b.checkField field = .ok ()) →
              ∃ answer : Sheet, (s.ask e.backend b (.columns fields)).1 = .ok answer ∧ answer.header = fields
                ∧ answer.rows = e.dataset.sheet.rows.map fun cells =>
                  fields.map fun field => cells.getD (e.dataset.sheet.header.idxOf field) "" := by
  have apart : e.dataset.sheet.header.Pairwise fun c d => sameName d c = false :=
    distinct.imp fun {c d} differ => by simpa [sameName] using Ne.symm differ
  have fault := fault?_of_distinct clean few free apart
  have columns : ¬e.dataset.sheet.header.isEmpty := by simpa using hasColumns
  split
  next reserved => rw [connect, if_neg columns, fault, if_pos reserved]
  next readable =>
      have connected : e.connect = .ok true := by rw [connect, if_neg columns, fault, if_neg readable]
      have checked := checked_of_connect connected
      refine ⟨connected, fun s b table unfiltered => ⟨?_, fun fields nonempty short known => ?_⟩⟩
      · rw [ask_backend connected, reply_all_unfiltered connected table unfiltered]
      · have outlined : b.outline (.columns fields) = .ok ⟨.rows (fields.map Name.ofText) none, [], none⟩ :=
          bind_eq_ok.2 ⟨(), QueryBuilder.forM_checked_eq_ok.2 fun field member => (known field member).2, rfl⟩
        rw [ask_backend connected, reply_unfiltered connected table unfiltered outlined
          (fun field member => (known field member).1) (by rwa [List.length_map]),
          checked.sheet_fields nonempty fun field member => (known field member).1]
        refine ⟨_, rfl, rfl, ?_⟩
        rw [← e.map_cells_rows, List.map_map]
        rfl

/-- A list of prices whose names hold spaces, signs and quotes. -/
def prices : Engine where
  tableName := "price list"
  dataset := ⟨"prices", ⟨["item", "Price ($)", "5\" \u2264"], [["pen", "2", ""], ["ink", "'7'", "x"]], by decide⟩⟩

/-- The list is answered as it is, and so are two of its columns in another order. -/
theorem hosts_unless_reserved_prices :
    let s : Session Unit Bool := ⟨(), none, []⟩
    let b : QueryBuilder := { table := "price list", fields := ["item", "Price ($)", "5\" \u2264"] }
    prices.connect = .ok true ∧ (s.ask prices.backend b .all).1 = .ok prices.dataset.sheet
      ∧ ∃ answer : Sheet, (s.ask prices.backend b (.columns ["5\" \u2264", "item"])).1 = .ok answer
        ∧ answer.rows = [["", "pen"], ["x", "ink"]] := by
  have hosted := hosts_unless_reserved prices (by decide) (by decide) (by decide) (by decide) (by decide)
  rw [if_neg (by decide)] at hosted
  obtain ⟨connected, answers⟩ := hosted
  obtain ⟨all, named⟩ := answers ⟨(), none, []⟩ { table := "price list", fields := ["item", "Price ($)", "5\" \u2264"] } rfl rfl
  obtain ⟨answer, asked, _, rows⟩ := named ["5\" \u2264", "item"] (by decide) (by decide) (by decide)
  exact ⟨connected, all, answer, asked, rows⟩

/-- A list of orders with a column that is named by a keyword. -/
def orders : Engine where
  tableName := "orders"
  dataset := ⟨"orders", ⟨["order", "item"], [["1", "pen"]], by decide⟩⟩

/-- The engine refuses the orders, although all of their names are distinct and without NUL. -/
theorem orders_refused :
    (∀ name ∈ orders.tableName :: orders.dataset.sheet.header, name ≠ "" ∧ NulFree name)
      ∧ orders.dataset.sheet.header.Pairwise (fun c d => upperWord c ≠ upperWord d)
      ∧ isReservedTable orders.tableName = false ∧ orders.connect = .error (.refused .unreadable) := by
  decide

end Engine

end Datasheet.Sql
