import Datasheet.Proofs.Selection.Meaning
import Datasheet.Proofs.Sql.Conversation
import Datasheet.Proofs.Sql.Hosting
import Datasheet.Proofs.Sql.Rejecting

/-! # Names that no column has

A selection refuses every name that is not in the header. The engine refuses what it cannot take for anything, but it
takes a name in quotes for a text, a few words for values, for what its clock tells or for the number of the row, and a
name in another letter case for the column.
-/

namespace Datasheet.Sql

/-! ## What a query looks up -/

theorem Condition.mem_operands {c : Condition} {n : Name} (member : n ∈ c.names) : .column n ∈ c.operands := by
  cases c with
  | test t => exact Test.mem_operands member
  | isExtreme value e =>
      simp only [names, List.mem_append] at member
      rcases member with (member | member) | member
      · simp [operands, Scalar.operand_of_names member]
      · simp [operands, Extreme.operands, Scalar.operand_of_names member]
      · exact List.mem_cons_of_mem _ (List.mem_cons_of_mem _ (List.mem_cons_of_mem _ (Test.mem_flatMap_operands member)))

theorem Condition.IsReadable.isColumn {c : Condition} (readable : c.IsReadable) {n : Name} (member : n ∈ c.names) :
    n.IsColumn := by
  cases c with
  | test t => exact readable _ (Test.mem_operands member)
  | isExtreme value e =>
      obtain ⟨operand, operand', _, tests⟩ := readable
      simp only [names, List.mem_append] at member
      rcases member with (member | member) | member
      · rwa [Scalar.operand_of_names member] at operand
      · rwa [Scalar.operand_of_names member] at operand'
      · obtain ⟨t, test, inside⟩ := List.mem_flatMap.1 member
        exact tests t test _ (Test.mem_operands inside)

theorem Query.IsReadable.isColumn {q : Query} (readable : q.IsReadable) {n : Name}
    (member : n ∈ q.answer.names ++ q.conditions.flatMap Condition.names) : n.IsColumn := by
  rcases List.mem_append.1 member with member | member
  · exact readable.answer _ (Answer.mem_operands member)
  · obtain ⟨c, condition, inside⟩ := List.mem_flatMap.1 member
    exact (readable.conditions c condition).isColumn inside

theorem Query.mem_operands_of_names {q : Query} {n : Name}
    (member : n ∈ q.answer.names ++ q.conditions.flatMap Condition.names) : .column n ∈ q.operands := by
  rcases List.mem_append.1 member with member | member
  · exact List.mem_append_left _ (Answer.mem_operands member)
  · obtain ⟨c, condition, inside⟩ := List.mem_flatMap.1 member
    exact List.mem_append_right _ (List.mem_cons_of_mem _
      (List.mem_flatMap.2 ⟨c, condition, Condition.mem_operands inside⟩))

namespace QueryBuilder

variable {b : QueryBuilder} {request : Request}

theorem names_folded (b : QueryBuilder) (field : String) : (b.folded (column field)).names = [Name.ofText field] := by
  rw [folded]
  split <;> rfl

theorem mem_names_tests (b : QueryBuilder) (f : Filter) : Name.ofText f.field ∈ (b.tests f).flatMap Test.names := by
  rw [tests_eq, List.flatMap_append, List.flatMap_singleton]
  refine List.mem_append_right _ ?_
  obtain ⟨field, operator, value⟩ := f
  cases operator with
  | numeric op | date op => exact List.mem_cons_self
  | text op => cases op <;> simp [decisive, textTest, Test.names, names_folded]

theorem mem_names_of_outline {o : Outline} {table n : Name} {filters : List Test}
    (member : n ∈ o.answer.names ++ o.extreme.toList.flatMap (·.2.names)) :
    n ∈ (o.query table filters).answer.names ++ (o.query table filters).conditions.flatMap Condition.names := by
  obtain ⟨answer, tests, extreme⟩ := o
  cases extreme with
  | none => exact List.mem_append_left _ (by simpa [Outline.query] using member)
  | some extreme =>
      obtain ⟨function, value⟩ := extreme
      simp only [Option.toList_some, List.flatMap_singleton, List.mem_append] at member
      simp only [Outline.query, List.flatMap_append, List.flatMap_cons, Condition.names, List.mem_append]
      tauto

theorem mem_names_of_filters {o : Outline} {table n : Name} {filters : List Test}
    (member : n ∈ filters.flatMap Test.names) : n ∈ (o.query table filters).conditions.flatMap Condition.names := by
  obtain ⟨answer, tests, extreme⟩ := o
  cases extreme with
  | none =>
      rw [Outline.query, flatMap_names_map_test, List.flatMap_append]
      exact List.mem_append_right _ member
  | some extreme =>
      simp only [Outline.query, List.flatMap_append, List.flatMap_cons, flatMap_names_map_test, List.mem_append]
      exact .inr (.inr member)

theorem Outlines.mem_names {o : Outline} (outlines : b.Outlines request o) {name : String}
    (named : name ∈ b.namedFields request) :
    Name.ofText name ∈ o.answer.names ++ o.extreme.toList.flatMap (·.2.names) := by
  cases outlines with
  | all | window | page | rowCount => exact absurd named List.not_mem_nil
  | columns => exact List.mem_append_left _ (List.mem_map.2 ⟨name, named, rfl⟩)
  | distinct | frequency | withFrequency | aggregate =>
      obtain rfl := List.mem_singleton.1 named
      exact List.mem_cons_self
  | extremeRows =>
      rcases List.mem_cons.1 named with rfl | key
      · exact List.mem_append_right _ List.mem_cons_self
      · exact List.mem_append_left _ (List.mem_map.2 ⟨name, key, rfl⟩)

/-- Every field that a request or a filter names is looked up by the query. -/
theorem mem_names_of_named {q : Query} (made : b.query request = .ok q) {name : String}
    (named : name ∈ b.namedFields request ++ b.filters.map (·.field)) :
    Name.ofText name ∈ q.answer.names ++ q.conditions.flatMap Condition.names := by
  obtain ⟨o, outlined, _, rfl⟩ := query_eq_ok.1 made
  rcases List.mem_append.1 named with named | named
  · exact mem_names_of_outline ((outline_eq_ok.1 outlined).mem_names named)
  · obtain ⟨f, filter, rfl⟩ := List.mem_map.1 named
    refine List.mem_append_right _ (mem_names_of_filters ?_)
    obtain ⟨t, test, inside⟩ := List.mem_flatMap.1 (b.mem_names_tests f)
    exact List.mem_flatMap.2 ⟨t, List.mem_flatMap.2 ⟨f, filter, test⟩, inside⟩

end QueryBuilder

namespace Engine

variable {e : Engine} {b : QueryBuilder} {request : Request}

/-! ## What the engine takes a name for -/

/-- Words that the engine takes for something in every table: for a value, which its clock may tell, or for the number
    of the row. -/
def takenWords : List String := valueWords ++ ["TRUE", "FALSE"] ++ rowNumberWords

/-- The engine takes a name for something: a name in quotes at least for a text, and one without quotes for what its word
    stands for in every table, or for a column in any letter case. -/
def Takes (e : Engine) (name : String) : Prop :=
  if needsQuoting name then NulFree name
  else upperWord name ∈ takenWords
    ∨ upperWord name ∉ expressionWords ∧ ∃ c ∈ e.dataset.sheet.header, sameName name c = true

instance (e : Engine) (name : String) : Decidable (e.Takes name) :=
  inferInstanceAs (Decidable (if needsQuoting name then NulFree name
    else upperWord name ∈ takenWords
      ∨ upperWord name ∉ expressionWords ∧ ∃ c ∈ e.dataset.sheet.header, sameName name c = true))

theorem isColumn_unquoted {name : String} : (⟨name, false⟩ : Name).IsColumn
    ↔ upperWord name ∈ valueWords ∨ upperWord name ∉ expressionWords ∧ upperWord name ∉ reservedWords := by
  simp only [Name.IsColumn, Name.token, Bool.false_eq_true, if_false, Name.ofExpression?, Name.ofToken?,
    List.contains_iff_mem]
  split
  next value => simp [value]
  next noValue => grind

theorem isSome_constantOf? {name : String} :
    (constantOf? ⟨name, false⟩).isSome ↔ upperWord name ∈ ["TRUE", "FALSE"] := by
  simp only [constantOf?, isKeyword, beq_iff_eq, Bool.false_eq_true, if_false, List.mem_cons, List.not_mem_nil, or_false]
  grind

theorem isSome_resolve?_unquoted {name : String} : (e.table.resolve? ⟨name, false⟩).isSome
    ↔ upperWord name ∈ takenWords ∨ ∃ c ∈ e.dataset.sheet.header, sameName name c = true := by
  have found : (∃ c ∈ e.dataset.sheet.header, sameName name c = true)
      ↔ (e.table.columns.findIdx? (sameName name)).isSome := by
    rw [List.findIdx?_isSome, List.any_eq_true]
    rfl
  rw [found, takenWords, List.mem_append, List.mem_append, ← isSome_constantOf?, ← @isSome_keywordValue? e.table.clock,
    Table.resolve?]
  cases keywordValue? e.table.clock ⟨name, false⟩ with
  | some v => simp
  | none =>
      cases e.table.columns.findIdx? (sameName name) with
      | some index => simp
      | none =>
          by_cases number : upperWord name ∈ rowNumberWords
          · simp [number]
          · simp [number]

/-- A name in quotes always stands for something. -/
theorem isSome_resolve?_quoted (e : Engine) (name : String) : (e.table.resolve? ⟨name, true⟩).isSome := by
  have noKeyword : keywordValue? e.table.clock ⟨name, true⟩ = none := rfl
  rw [Table.resolve?, noKeyword]
  cases e.table.columns.findIdx? (sameName name) with
  | some index => rfl
  | none =>
      dsimp only
      split <;> rfl

theorem takes_of_resolve {name : String} (column : (Name.ofText name).IsColumn)
    (clean : needsQuoting name = true → NulFree name) (resolved : (e.table.resolve? (Name.ofText name)).isSome) :
    e.Takes name := by
  rw [Takes]
  split
  next quoting => exact clean quoting
  next plain =>
      have unquoted : Name.ofText name = ⟨name, false⟩ := by simp [Name.ofText, plain]
      rw [unquoted] at column resolved
      rw [isColumn_unquoted] at column
      rcases isSome_resolve?_unquoted.1 resolved with word | known
      · exact .inl word
      · rcases column with value | ⟨noExpression, _⟩
        · exact .inl (List.mem_append_left _ (List.mem_append_left _ value))
        · exact .inr ⟨noExpression, known⟩

/-- Conversely the engine reads a name that is taken. -/
theorem Checked.reads_of_takes (checked : e.Checked) {name : String} (taken : e.Takes name) : e.Reads name := by
  rw [Takes] at taken
  split at taken
  next quoting =>
      have quoted : Name.ofText name = ⟨name, true⟩ := by simp [Name.ofText, quoting]
      refine ⟨?_, taken, ?_⟩
      · rw [quoted]
        rfl
      · rw [quoted]
        exact e.isSome_resolve?_quoted name
  next plain =>
      have unquoted : Name.ofText name = ⟨name, false⟩ := by simp [Name.ofText, plain]
      refine ⟨?_, nulFree_of_ofName (by simp [Token.ofName, plain, Token.IsNulFree]), ?_⟩
      · rw [unquoted, isColumn_unquoted]
        rcases taken with word | ⟨noExpression, c, member, same⟩
        · have words : ∀ word ∈ ["TRUE", "FALSE"] ++ rowNumberWords, word ∉ expressionWords ∧ word ∉ reservedWords := by
            decide
          rw [takenWords, List.append_assoc, List.mem_append] at word
          exact word.imp_right (words _)
        · -- The column in the other letter case needs no quotes either, so the engine has found it to be no keyword.
          have same : upperWord name = upperWord c := by simpa [sameName] using same
          have plain' : needsQuoting c = false := by
            rw [← needsQuoting_upperWord, ← same, needsQuoting_upperWord]
            simpa using plain
          have table := checked.columns c member
          rw [Name.IsTable, Name.token_ofText, Token.ofName, plain'] at table
          refine .inr ⟨noExpression, fun reserved => ?_⟩
          simp [Name.ofToken?, ← same, reserved] at table
      · rw [unquoted, isSome_resolve?_unquoted]
        exact taken.imp_right And.right

/-! ## What an answer needs -/

theorem readable_of_answer {q : Query} (made : b.query request = .ok q) {sheet : Sheet}
    (answered : e.answer q.text = .ok sheet) : q.IsReadable ∧ q.run e.table = .ok sheet := by
  obtain ⟨operands, label⟩ := QueryBuilder.query_isOf made
  have plain := Query.forall_tokens Token.isFormal_isPlain label fun x member => (operands x member).isPlain
  have clean := nulFree_tokens_of_answer made answered
  rw [answer, Query.ofText?, Query.text, String.toList_ofList, lex_spell plain clean, Option.bind_some] at answered
  cases read : Query.read? q.tokens with
  | none => simp [read] at answered
  | some r =>
      have readable := Query.isReadable_of_read read
      rw [Query.read?_tokens readable] at answered
      exact ⟨readable, answered⟩

theorem resolved_of_run {q : Query} {t : Table} {sheet : Sheet} (ran : q.run t = .ok sheet) :
    ∀ n ∈ q.answer.names ++ q.conditions.flatMap Condition.names, (t.resolve? n).isSome := by
  intro n member
  have faultless : q.fault? t = none := by
    cases fault : q.fault? t with
    | none => rfl
    | some cause => simp [Query.run, fault] at ran
  simp only [Query.fault?] at faultless
  split at faultless
  next => exact absurd faultless (by simp)
  next =>
      split at faultless
      next => exact absurd faultless (by simp)
      next known => simpa [Option.isSome_iff_ne_none] using List.find?_eq_none.1 known n member

/-- What is answered names only what is taken. -/
theorem takes_of_reply {sheet : Sheet} (answered : e.reply b request = .ok sheet) {name : String}
    (named : name ∈ b.namedFields request ++ b.filters.map (·.field)) : e.Takes name := by
  obtain ⟨q, made, answered⟩ := reply_eq_ok answered
  obtain ⟨readable, ran⟩ := readable_of_answer made answered
  have looked := QueryBuilder.mem_names_of_named made named
  refine takes_of_resolve (readable.isColumn looked) (fun quoting => ?_) (resolved_of_run ran _ looked)
  -- A name in quotes with a NUL would have cut the text off before its closing quote.
  have clean := nulFree_tokens_of_answer made answered _ (Query.mem_tokens (Query.mem_operands_of_names looked))
  rw [Operand.token, Name.token_ofText] at clean
  exact nulFree_of_ofName clean

/-! ## Sessions -/

theorem answer_of_execute {s : Session Unit Bool} {sql : String} {sheet : Sheet}
    (executed : (s.execute e.backend sql).1 = .ok sheet) : e.answer sql = .ok sheet := by
  rw [Session.execute] at executed
  split at executed
  next => exact absurd executed (by simp)
  next isOpen t _ =>
      cases isOpen with
      | false => exact absurd executed (by simp [backend, query])
      | true =>
          simp only [backend, query, if_true] at executed
          cases answered : e.answer sql with
          | error fault => simp [answered] at executed
          | ok found => simpa [answered] using executed

theorem reply_of_ask {s : Session Unit Bool} {sheet : Sheet} (asked : (s.ask e.backend b request).1 = .ok sheet) :
    e.reply b request = .ok sheet := by
  rw [Session.ask] at asked
  rw [reply]
  cases made : b.text request with
  | error fault => simp [made] at asked
  | ok sql =>
      rw [made] at asked
      exact answer_of_execute asked

end Engine

end Datasheet.Sql
