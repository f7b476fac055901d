import Datasheet.Proofs.Schema.Inference
import Datasheet.Proofs.Sql.Frequency
import Datasheet.Proofs.Sql.Hosting

/-! # Distinct values

The engine's distinct values of a field are the cells of the rows that pass the filters, each of them once. It tells
cells apart as they are written, and so does the profile of a column: without filters there are as many values as the
schema counts, and they are the main values of a categorical field.
-/

namespace Datasheet.Sql

/-- The sheet that lists values of a field. -/
def valueSheet (field : String) (values : List String) : Sheet := ⟨[field], values.map ([·]), by simp⟩

namespace Engine

variable {e : Engine} {b : QueryBuilder} {field : String} {request : Request} {answer : Answer}

/-! ## Requests that are answered together -/

theorem answers_iff (connected : e.connect = .ok true) (plain : e.HasPlainColumns) (based : b.IsOver e)
    (outlined : b.outline request = .ok ⟨answer, [], none⟩) (named : b.namedFields request ⊆ e.dataset.sheet.header)
    (few : answer.names.length ≤ columnLimit) (whole : answer.needed = none)
    (made : ∀ kept, (∀ row ∈ kept, row ∈ e.table.rows) → ∃ sheet, answer.sheet e.table kept = .ok sheet) :
    (∃ sheet, e.reply b request = .ok sheet) ↔ ((∀ f ∈ b.filters, b.checkFilter f = .ok ())
      ∧ (∀ f ∈ b.filters, NulFree (QueryBuilder.literalOf f)) ∧ b.depth [] ≤ heightLimit
      ∧ e.Testable (b.filters.flatMap b.tests)) := by
  have replied (correct : ∀ f ∈ b.filters, b.checkFilter f = .ok ())
      (clean : ∀ f ∈ b.filters, NulFree (QueryBuilder.literalOf f)) :
      e.reply b request = e.plainAnswer answer (b.filters.flatMap b.tests) :=
    reply_plain connected plain based outlined correct clean named few whole rfl
  constructor
  · rintro ⟨sheet, answered⟩
    obtain ⟨q, queried, ran⟩ := reply_eq_ok answered
    obtain ⟨_, _, correct, _⟩ := QueryBuilder.query_eq_ok.1 queried
    have clean := nulFree_of_answer queried ran
    rw [replied correct clean, plainAnswer_eq_ok_iff] at answered
    exact ⟨correct, clean, answered.1, answered.2.1⟩
  · rintro ⟨correct, clean, shallow, testable⟩
    obtain ⟨sheet, shown⟩ := made (e.passing (b.filters.flatMap b.tests)) fun _ => mem_rows_of_passing
    exact ⟨sheet, (replied correct clean).trans (plainAnswer_eq_ok_iff.2 ⟨shallow, testable, shown⟩)⟩

/-! ## Values of rows -/

theorem Checked.sheet_distinct (checked : e.Checked) (column : e.IsPlainColumn field) (kept : List Row) :
    ∃ values : List String, (Answer.distinct (Name.ofText field)).sheet e.table kept = .ok (valueSheet field values)
      ∧ values.Nodup ∧ ∀ v, v ∈ values ↔ v ∈ kept.map (e.cell field) := by
  obtain ⟨values, same, nodup, members⟩ := firstOccurrences_text [] (kept.map (e.cell field))
  have cells : (kept.map fun row => e.table.value row (Name.ofText field)) = (kept.map (e.cell field)).map .text := by
    rw [List.map_map]
    exact List.map_congr_left fun row _ => checked.value_ofText column row
  rw [List.map_nil] at same
  refine ⟨values, ?_, nodup, fun v => by simpa using members v⟩
  rw [Answer.sheet, sheetOf, checked.heading_ofText column, cells, same, List.map_map, List.map_map]
  exact Sheet.ofRows_eq_ok (valueSheet field values).rectangular

theorem outline_distinct (known : field ∈ b.fields) :
    b.outline (.distinct field) = .ok ⟨.distinct (Name.ofText field), [], none⟩ :=
  (QueryBuilder.Outlines.distinct (QueryBuilder.checkField_eq_ok known)).outline

/-- The distinct values are answered exactly where all rows are. They are the values that the rows have. -/
theorem distinct_of_all (connected : e.connect = .ok true) (plain : e.HasPlainColumns) (based : b.IsOver e)
    (known : field ∈ b.fields) :
    ((∃ sheet, e.reply b (.distinct field) = .ok sheet) ↔ ∃ all, e.reply b .all = .ok all)
      ∧ ∀ all : Sheet, e.reply b .all = .ok all → ∃ values : List String,
        e.reply b (.distinct field) = .ok (valueSheet field values) ∧ values.Nodup
          ∧ ∀ v, v ∈ values ↔ v ∈ all.cellsOf field := by
  have checked := checked_of_connect connected
  have column := plain.isPlainColumn (based.fields known)
  have named : [field] ⊆ e.dataset.sheet.header := List.cons_subset.2 ⟨column.1, List.nil_subset _⟩
  have few : 1 ≤ columnLimit := by decide
  refine ⟨?_, fun all ran => ?_⟩
  · refine (answers_iff connected plain based (outline_distinct known) named few rfl fun kept _ => ?_).trans
      (answers_iff connected plain based rfl (List.nil_subset _) (Nat.zero_le _) rfl fun kept inside => ?_).symm
    · obtain ⟨values, shown, _⟩ := checked.sheet_distinct column kept
      exact ⟨_, shown⟩
    · exact ⟨_, sheet_rows inside⟩
  · obtain ⟨correct, clean, testable, rfl⟩ := shown_of_all connected plain based ran
    rw [reply_all connected plain based correct clean, plainAnswer_eq_ok_iff] at ran
    obtain ⟨values, shown, nodup, members⟩ := checked.sheet_distinct column (e.passing (b.filters.flatMap b.tests))
    refine ⟨values, ?_, nodup, fun v => ?_⟩
    · rw [reply_plain connected plain based (outline_distinct known) correct clean named few rfl rfl]
      exact plainAnswer_eq_ok_iff.2 ⟨ran.1, testable, shown⟩
    · rw [members, cellsOf_sheetOfRows _ column.1]

/-- The engine's distinct values of a field and the schema that is inferred of its dataset count the same. Without filters
    the values are the cells of the column, each of them once and as many as the field counts, and they are the main
    values of a categorical field. With filters they are answered exactly where the rows are, and they are the values
    that the rows have, each of them once. -/
theorem distinct_counts_as_inferred (e : Engine) (settings : SchemaSettings) (lexicon : Lexicon) (schema : Schema)
    (f : Field) (b : QueryBuilder) (s : Session Unit Bool) (connected : e.connect = .ok true) (plain : e.HasPlainColumns)
    (inferred : Schema.infer settings lexicon e.dataset = .ok schema) (member : f ∈ schema.fields) (based : b.IsOver e)
    (known : f.name ∈ b.fields) :
    let asked (filters : List Filter) (request : Request) := (s.ask e.backend { b with filters := filters } request).1
    (∃ values : List String, asked [] (.distinct f.name) = .ok (valueSheet f.name values) ∧ values.Nodup
        ∧ values.length = f.distinct ∧ (∀ v, v ∈ values ↔ v ∈ e.dataset.sheet.cellsOf f.name)
        ∧ (f.categorical = true → values.Perm f.mainValues))
      ∧ ∀ filters,
        ((∃ answer, asked filters (.distinct f.name) = .ok answer) ↔ ∃ all, asked filters .all = .ok all)
          ∧ ∀ all, asked filters .all = .ok all → ∃ values : List String,
            asked filters (.distinct f.name) = .ok (valueSheet f.name values) ∧ values.Nodup
              ∧ ∀ v, v ∈ values ↔ v ∈ all.cellsOf f.name := by
  intro asked
  have based' (filters : List Filter) : QueryBuilder.IsOver { b with filters := filters } e :=
    ⟨based.table, based.hasFields, based.fields⟩
  have asks (filters : List Filter) (request : Request) :
      asked filters request = e.reply { b with filters := filters } request := ask_backend connected s _ request
  simp only [asks]
  obtain ⟨_, w, described⟩ := Schema.infer_describes_member inferred member
  refine ⟨?_, fun filters => distinct_of_all connected plain (based' filters) known⟩
  have unfiltered := @reply_all_unfiltered e { b with filters := [] } connected based.table rfl
  obtain ⟨values, answered, nodup, members⟩ := (distinct_of_all connected plain (based' []) known).2 _ unfiltered
  have profile := Profile.describes_ofCells (e.dataset.sheet.cellsOf f.name) settings.maxDistinct
  refine ⟨values, answered, nodup, ?_, members, fun categorical => ?_⟩
  · rw [described.distinct, profile.distinct, ← List.toFinset_card_of_nodup nodup]
    exact congrArg Finset.card (List.toFinset.ext members)
  · have kept := described.mainValues
    rw [if_pos categorical] at kept
    obtain ⟨ascending, same⟩ := profile.values _ kept
    exact (List.perm_ext_iff_of_nodup nodup ascending.nodup).2 fun v => (members v).trans (same v).symm

/-- A table of visits, with towns that differ in case, in spaces and in how a number is written. -/
def visits : Engine where
  tableName := "visits"
  dataset := ⟨"visits", ⟨["town", "day"], [["Ulm", "1"], ["ulm", "1.0"], ["Ulm", " 1"], ["", "2"], ["Ulm ", "1"]],
    by decide⟩⟩

/-- The schema of the visits. -/
def visitSchema : Schema where
  name := "visits"
  fields := [
    { name := "town", readableNames := [("en", "town")], kind := .text, distinct := 4, categorical := true,
      mainValues := ["", "Ulm", "Ulm ", "ulm"] },
    { name := "day", readableNames := [("en", "day")], kind := .number, distinct := 4 }]

/-- The four spellings of the towns are four values, and three of them are left on the days that are not the second one. -/
theorem distinct_counts_as_inferred_visits :
    let s : Session Unit Bool := ⟨(), none, []⟩
    let b : QueryBuilder := { table := "visits", fields := ["town", "day"] }
    (∃ values : List String, (s.ask visits.backend b (.distinct "town")).1 = .ok (valueSheet "town" values)
        ∧ values.length = 4 ∧ values.Perm ["", "Ulm", "Ulm ", "ulm"])
      ∧ ∃ values : List String,
        (s.ask visits.backend { b with filters := [⟨"day", .text .different, "2"⟩] } (.distinct "town")).1
          = .ok (valueSheet "town" values)
        ∧ values.Nodup ∧ ∀ v, v ∈ values ↔ v ∈ ["Ulm", "ulm", "Ulm", "Ulm "] := by
  have shown : ((⟨(), none, []⟩ : Session Unit Bool).ask visits.backend
      { table := "visits", fields := ["town", "day"], filters := [⟨"day", .text .different, "2"⟩] } .all).1
        = .ok ⟨["town", "day"], [["Ulm", "1"], ["ulm", "1.0"], ["Ulm", " 1"], ["Ulm ", "1"]], by decide⟩ := by rfl
  intro s b
  obtain ⟨⟨values, asked, _, count, _, main⟩, filtered⟩ := distinct_counts_as_inferred visits { maxDistinct := 4 }
    (Lexicon.ofColumns ["town", "day"] ["en"]) visitSchema
    { name := "town", readableNames := [("en", "town")], kind := .text, distinct := 4, categorical := true,
      mainValues := ["", "Ulm", "Ulm ", "ulm"] } b s rfl (by decide) (by decide +kernel) (by decide)
    ⟨rfl, by decide, by decide⟩ (by decide)
  obtain ⟨few, asked', nodup, members⟩ := (filtered [⟨"day", .text .different, "2"⟩]).2 _ shown
  exact ⟨⟨values, asked, count, main rfl⟩, few, asked', nodup, members⟩

end Engine

end Datasheet.Sql
