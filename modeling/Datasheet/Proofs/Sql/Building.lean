import Datasheet.Proofs.Sql.Operands
import Datasheet.Proofs.Text.Trimming
import Datasheet.Sql.Builder

/-! # The queries of a builder

A query is made of the outline of its request, which no filter takes part in, and of the tests of the filters.
`Outlines` tells the outlines that a builder makes, request by request, so that later proofs go through its cases
and need not take the builder's steps apart. The columns of a query are under names that the request, the builder
and the filters use, and its texts are fixed ones or the values of filters.
-/

namespace Datasheet.Sql

open Text

/-- The texts in queries that do not come from filters. -/
def fixedTexts : List String := ["", "*[0-9]*", "*[^0-9.eE+-]*", "\\"]

theorem nulFree_fixedTexts : ∀ text ∈ fixedTexts, NulFree text := by decide

/-- A column under one of the names, written as a builder writes names, or a text that is fixed or one of the
    values. -/
def Operand.IsOf (names values : List String) : Operand → Prop
  | column n => ∃ name ∈ names, n = Name.ofText name
  | text value => value ∈ fixedTexts ∨ value ∈ values

namespace Operand.IsOf

variable {names values : List String} {x : Operand}

theorem mono {more others : List String} (known : x.IsOf names values) (sub : names ⊆ more)
    (sub' : values ⊆ others) : x.IsOf more others := by
  cases x with
  | column n =>
      obtain ⟨name, member, same⟩ := known
      exact ⟨name, sub member, same⟩
  | text value => exact known.imp_right fun member => sub' member

theorem isPlain (known : x.IsOf names values) : x.token.IsPlain := by
  cases x with
  | column n =>
      obtain ⟨name, _, rfl⟩ := known
      rw [Operand.token, Name.token, Name.ofText]
      split
      next => trivial
      next plain => simpa [needsQuoting, Token.IsPlain] using plain
  | text value => trivial

theorem isNulFree (clean : ∀ name ∈ names, NulFree name) (clean' : ∀ value ∈ values, NulFree value)
    (known : x.IsOf names values) : x.token.IsNulFree := by
  cases x with
  | column n =>
      obtain ⟨name, member, rfl⟩ := known
      rw [Operand.token, Name.token, Name.ofText]
      split
      next => exact clean name member
      next => trivial
  | text value => exact known.elim (nulFree_fixedTexts value) (clean' value)

theorem mem_of_quoted {name : String} (known : x.IsOf names values) (quoted : x.token = .quoted name) :
    name ∈ names := by
  cases x with
  | column n =>
      obtain ⟨other, member, rfl⟩ := known
      rw [Operand.token, Name.token, Name.ofText] at quoted
      split at quoted
      next => exact Token.quoted.inj quoted ▸ member
      next => exact absurd quoted (by simp)
  | text value => exact absurd quoted (by simp [Operand.token])

end Operand.IsOf

theorem Token.isFormal_quoted (names : List String) :
    Token.IsFormal fun t => ∀ name, t = .quoted name → name ∈ names where
  word _ _ _ same := absurd same (by simp)
  number _ _ same := absurd same (by simp)
  sign _ _ same := absurd same (by simp)

/-! ## Outlines -/

/-- The operands of an outline. -/
def Outline.operands (o : Outline) : List Operand :=
  o.answer.operands ++ o.tests.flatMap Test.operands ++ o.extreme.toList.map fun (_, value) => value.operand

theorem flatMap_operands_map_test (tests : List Test) :
    (tests.map Condition.test).flatMap Condition.operands = tests.flatMap Test.operands := by
  rw [List.flatMap_map]
  rfl

theorem Outline.mem_operands_query {o : Outline} {table : Name} {filters : List Test} {x : Operand}
    (member : x ∈ (o.query table filters).operands) :
    x ∈ o.operands ∨ x = .column table ∨ x ∈ filters.flatMap Test.operands := by
  obtain ⟨answer, tests, extreme⟩ := o
  cases extreme with
  | none =>
      simp only [Outline.query, Query.operands, flatMap_operands_map_test, List.flatMap_append, List.mem_append,
        List.mem_cons] at member
      simp only [Outline.operands, List.mem_append]
      tauto
  | some extreme =>
      simp only [Outline.query, Query.operands, flatMap_operands_map_test, List.flatMap_append, List.flatMap_cons,
        Condition.operands, Extreme.operands, List.mem_append, List.mem_cons] at member
      simp only [Outline.operands, Option.toList_some, List.map_cons, List.map_nil, List.mem_append,
        List.mem_singleton]
      tauto

theorem Outline.answer_query (o : Outline) (table : Name) (filters : List Test) :
    (o.query table filters).answer = o.answer := by
  obtain ⟨answer, tests, extreme⟩ := o
  cases extreme <;> rfl

/-- The fields that the outline of a request names. -/
def QueryBuilder.namedFields (b : QueryBuilder) : Request → List String
  | .columns fields => fields
  | .extremeRows field _ => field :: b.keyFields
  | .distinct field | .aggregate field _ | .frequency field _ | .withFrequency field _ => [field]
  | .all | .window _ _ | .page _ | .rowCount => []

/-- The names of all columns and tables that the query of a request can hold. -/
def QueryBuilder.names (b : QueryBuilder) (request : Request) : List String :=
  b.table :: (b.namedFields request ++ b.filters.map (·.field))

namespace QueryBuilder

theorem isPlainWord_append_wordPart {front : String} (plain : isPlainWord front.toList = true) (name : String) :
    isPlainWord (front ++ "_" ++ wordPart name).toList = true := by
  cases h : front.toList with
  | nil => simp [h, isPlainWord] at plain
  | cons c cs =>
      rw [h] at plain
      obtain ⟨starts, continues⟩ := Bool.and_eq_true_iff.1 plain
      have masked : ∀ c ∈ (wordPart name).toList, continuesWord c = true := by
        intro c member
        rw [wordPart, String.toList_ofList] at member
        obtain ⟨d, _, rfl⟩ := List.mem_map.1 member
        split
        next good => exact good
        next => decide
      have line : continuesWord '_' = true := by decide
      rw [String.toList_append, String.toList_append, h, List.cons_append, List.cons_append, isPlainWord, starts,
        Bool.true_and, List.all_append, List.all_append, continues, Bool.true_and, Bool.and_eq_true_iff]
      exact ⟨by simp [line], List.all_eq_true.2 masked⟩

theorem operands_filled {field : String} {x : Operand} (member : x ∈ (filled field).operands) :
    x.IsOf [field] [] := by
  simp only [filled, Test.operands, List.mem_cons, List.not_mem_nil, or_false] at member
  rcases member with rfl | rfl
  · exact ⟨field, List.mem_singleton_self field, rfl⟩
  · exact .inl (by decide)

theorem operands_glob {field pattern : String} {negated : Bool} {x : Operand} (fixed : pattern ∈ fixedTexts)
    (member : x ∈ (Test.glob (.trimmed (column field)) negated pattern).operands) : x.IsOf [field] [] := by
  simp only [Test.operands, Scalar.operand, List.mem_cons, List.not_mem_nil, or_false] at member
  rcases member with rfl | rfl
  · exact ⟨field, List.mem_singleton_self field, rfl⟩
  · exact .inl fixed

theorem operands_guard {b : QueryBuilder} {field : String} {x : Operand}
    (member : x ∈ (b.guard field).flatMap Test.operands) : x.IsOf [field] [] := by
  obtain ⟨t, inside, found⟩ := List.mem_flatMap.1 member
  rw [guard] at inside
  split at inside
  next =>
      obtain rfl := List.mem_singleton.1 inside
      exact operands_filled found
  next =>
      simp only [List.mem_cons, List.not_mem_nil, or_false] at inside
      rcases inside with rfl | rfl | rfl
      · exact operands_filled found
      · exact operands_glob (by decide) found
      · exact operands_glob (by decide) found

/-! ## Filters -/

/-- The tests that stand before the one in which a filter's value is. -/
def guards (b : QueryBuilder) (f : Filter) : List Test :=
  match f.operator with
  | .numeric _ => b.guard f.field
  | .text _ | .date _ => []

/-- The test in which a filter's value is. -/
def decisive (b : QueryBuilder) (f : Filter) : Test :=
  match f.operator with
  | .numeric operator =>
      .compare (.decimal (column f.field)) (numericComparison operator) (.decimal (.text (trimmed f.value)))
  | .text operator => b.textTest f.field f.value operator
  | .date operator =>
      .compare (.day (column f.field)) (dateComparison operator) (.day (.text (trimmed f.value)))

theorem tests_eq (b : QueryBuilder) (f : Filter) : b.tests f = b.guards f ++ [b.decisive f] := by
  rw [tests, guards, decisive]
  cases f.operator <;> rfl

/-- The text that stands for a filter's value. -/
def literalOf (f : Filter) : String :=
  match f.operator with
  | .numeric _ | .date _ => trimmed f.value
  | .text .equals | .text .different => f.value
  | .text .contains => "%" ++ likePattern f.value ++ "%"
  | .text .startsWith => likePattern f.value ++ "%"
  | .text .endsWith => "%" ++ likePattern f.value

theorem nulFree_trimmed {value : String} (clean : NulFree value) : NulFree (trimmed value) := by
  intro c member
  rw [trimmed, String.toList_ofList] at member
  exact clean c (trim_subset _ member)

theorem nulFree_likePattern {value : String} (clean : NulFree value) : NulFree (likePattern value) := by
  rw [NulFree, likePattern, String.toList_ofList]
  rw [NulFree] at clean
  generalize value.toList = cs at clean
  induction cs with
  | nil => simp [escaped]
  | cons c cs ih =>
      obtain ⟨first, rest⟩ := List.forall_mem_cons.1 clean
      rw [escaped]
      split
      next => exact List.forall_mem_cons.2 ⟨by decide, List.forall_mem_cons.2 ⟨first, ih rest⟩⟩
      next => exact List.forall_mem_cons.2 ⟨first, ih rest⟩

theorem nulFree_append {s t : String} (first : NulFree s) (second : NulFree t) : NulFree (s ++ t) := by
  intro c member
  rw [String.toList_append] at member
  exact (List.mem_append.1 member).elim (first c) (second c)

theorem nulFree_literalOf {f : Filter} (clean : NulFree f.value) : NulFree (literalOf f) := by
  have wildcard : NulFree "%" := by decide
  have pattern := nulFree_likePattern clean
  rw [literalOf]
  split
  · exact nulFree_trimmed clean
  · exact nulFree_trimmed clean
  · exact clean
  · exact clean
  · exact nulFree_append (nulFree_append wildcard pattern) wildcard
  · exact nulFree_append pattern wildcard
  · exact nulFree_append wildcard pattern

theorem operand_folded (b : QueryBuilder) (x : Operand) : (b.folded x).operand = x := by
  rw [folded]
  split <;> rfl

/-- The operands of a filter's last test are its column, its literal and, for a pattern, the escape sign. -/
theorem operands_decisive (b : QueryBuilder) (f : Filter) :
    (b.decisive f).operands = [column f.field, .text (literalOf f)]
      ∨ (b.decisive f).operands = [column f.field, .text (literalOf f), .text "\\"] := by
  rw [decisive, literalOf]
  cases f.operator with
  | numeric operator => exact .inl rfl
  | date operator => exact .inl rfl
  | text operator =>
      cases operator with
      | equals | different =>
          left
          simp only [textTest, Test.operands, operand_folded]
      | contains | startsWith | endsWith =>
          right
          simp only [textTest, Test.operands, operand_folded]

theorem operands_tests {b : QueryBuilder} {f : Filter} {x : Operand}
    (member : x ∈ (b.tests f).flatMap Test.operands) : x.IsOf [f.field] [literalOf f] := by
  rw [tests_eq, List.flatMap_append, List.mem_append, List.flatMap_singleton] at member
  rcases member with member | member
  · rw [guards] at member
    split at member
    next => exact (operands_guard member).mono (List.Subset.refl _) (List.nil_subset _)
    next => exact absurd member (by simp)
    next => exact absurd member (by simp)
  · have known : x = column f.field ∨ x = .text (literalOf f) ∨ x = .text "\\" := by
      rcases operands_decisive b f with same | same
      · rw [same] at member
        simp only [List.mem_cons, List.not_mem_nil, or_false] at member
        exact member.imp_right .inl
      · rw [same] at member
        simpa using member
    rcases known with rfl | rfl | rfl
    · exact ⟨f.field, List.mem_singleton_self _, rfl⟩
    · exact .inr (List.mem_singleton_self _)
    · exact .inl (by decide)

/-! ## Queries -/

theorem mapM_checked_eq_ok {α β ε : Type} {check : α → Except ε Unit} {f : α → β} {xs : List α} {ys : List β} :
    (xs.mapM fun x => do check x; .ok (f x)) = .ok ys ↔ (∀ x ∈ xs, check x = .ok ()) ∧ ys = xs.map f := by
  induction xs generalizing ys with
  | nil => simp [pure, Except.pure, eq_comm]
  | cons x xs ih =>
      simp only [List.mapM_cons, bind_eq_ok, ih, List.forall_mem_cons, List.map_cons]
      constructor
      · rintro ⟨y, ⟨_, checked, made⟩, rest, ⟨all, rfl⟩, whole⟩
        obtain rfl := Except.ok.inj made
        exact ⟨⟨checked, all⟩, (Except.ok.inj whole).symm⟩
      · rintro ⟨⟨checked, all⟩, rfl⟩
        exact ⟨f x, ⟨(), checked, rfl⟩, xs.map f, ⟨all, rfl⟩, rfl⟩

theorem filterTests_eq_ok {b : QueryBuilder} {groups : List (List Test)} : b.filterTests = .ok groups ↔
    (∀ f ∈ b.filters, b.checkFilter f = .ok ()) ∧ groups = b.filters.map b.tests := mapM_checked_eq_ok

/-- A request has a query if it has an outline and all filters are in order. -/
theorem query_eq_ok {b : QueryBuilder} {request : Request} {q : Query} : b.query request = .ok q ↔
    ∃ o, b.outline request = .ok o ∧ (∀ f ∈ b.filters, b.checkFilter f = .ok ())
      ∧ q = o.query (Name.ofText b.table) (b.filters.flatMap b.tests) := by
  simp only [query, bind_eq_ok, filterTests_eq_ok]
  constructor
  · rintro ⟨o, outlined, groups, ⟨checked, rfl⟩, made⟩
    exact ⟨o, outlined, checked, (Except.ok.inj made).symm⟩
  · rintro ⟨o, outlined, checked, rfl⟩
    exact ⟨o, outlined, b.filters.map b.tests, ⟨checked, rfl⟩, rfl⟩

theorem forM_checked_eq_ok {b : QueryBuilder} {fields : List String} :
    fields.forM b.checkField = .ok () ↔ ∀ field ∈ fields, b.checkField field = .ok () := by
  induction fields with
  | nil => simp [pure, Except.pure]
  | cons field fields ih =>
      have step : (field :: fields).forM b.checkField = b.checkField field >>= fun _ => fields.forM b.checkField := rfl
      rw [step, bind_eq_ok, List.forall_mem_cons, ← ih]
      exact ⟨fun ⟨_, first, rest⟩ => ⟨first, rest⟩, fun ⟨first, rest⟩ => ⟨(), first, rest⟩⟩

/-! ## Requests -/

theorem readAggregate_eq_ok {word : String} {function : Aggregate} :
    readAggregate word = .ok function ↔ Aggregate.read? word = some function := by
  rw [readAggregate]
  cases Aggregate.read? word with
  | none => simp
  | some other => simp

theorem checkField_of_checkNumeric {b : QueryBuilder} {field : String} (numeric : b.checkNumeric field = .ok ()) :
    b.checkField field = .ok () := by
  obtain ⟨_, known, _⟩ := bind_eq_ok.1 numeric
  exact known

/-- The outline of a request, with what the builder asks of its fields and of the word for its aggregate. -/
inductive Outlines (b : QueryBuilder) : Request → Outline → Prop
  | all : Outlines b .all { answer := .rows [] none }
  | window (limit offset : Nat) : Outlines b (.window limit offset) { answer := .rows [] (some ⟨limit, offset⟩) }
  | page (number : Nat) : Outlines b (.page number) { answer := .rows [] (some (b.pageWindow number)) }
  | columns {fields : List String} (known : ∀ field ∈ fields, b.checkField field = .ok ()) :
      Outlines b (.columns fields) { answer := .rows (fields.map Name.ofText) none }
  | distinct {field : String} (known : b.checkField field = .ok ()) :
      Outlines b (.distinct field) { answer := .distinct (Name.ofText field) }
  | rowCount : Outlines b .rowCount { answer := .rowCount }
  | aggregate {field word : String} {function : Aggregate} (named : Aggregate.read? word = some function)
      (numeric : b.checkNumeric field = .ok ()) :
      Outlines b (.aggregate field word)
        { answer := .aggregate function (decimal field) (function.name ++ "_" ++ wordPart field),
          tests := b.guard field }
  | extremeRows {field word : String} {function : Aggregate} (named : Aggregate.read? word = some function)
      (extreme : function.isExtreme = true) (numeric : b.checkNumeric field = .ok ()) :
      Outlines b (.extremeRows field word)
        { answer := .rows (b.keyFields.map Name.ofText) none, tests := b.guard field,
          extreme := some (function, decimal field) }
  | frequency {field : String} (order : FrequencyOrder) (known : b.checkField field = .ok ()) :
      Outlines b (.frequency field order)
        { answer := .frequencies (Name.ofText field) (.first order), tests := [filled field] }
  | withFrequency {field : String} (count : Nat) (known : b.checkField field = .ok ()) :
      Outlines b (.withFrequency field count)
        { answer := .frequencies (Name.ofText field) (.exactly count), tests := [filled field] }

theorem outlines_of_outline {b : QueryBuilder} {request : Request} {o : Outline}
    (outlined : b.outline request = .ok o) : b.Outlines request o := by
  cases request with
  | all =>
      obtain rfl := Except.ok.inj outlined
      exact .all
  | window limit offset =>
      obtain rfl := Except.ok.inj outlined
      exact .window limit offset
  | page number =>
      obtain rfl := Except.ok.inj outlined
      exact .page number
  | rowCount =>
      obtain rfl := Except.ok.inj outlined
      exact .rowCount
  | columns fields =>
      obtain ⟨_, known, outlined⟩ := bind_eq_ok.1 outlined
      obtain rfl := Except.ok.inj outlined
      exact .columns (forM_checked_eq_ok.1 known)
  | distinct field =>
      obtain ⟨_, known, outlined⟩ := bind_eq_ok.1 outlined
      obtain rfl := Except.ok.inj outlined
      exact .distinct known
  | aggregate field word =>
      obtain ⟨function, named, outlined⟩ := bind_eq_ok.1 outlined
      obtain ⟨_, numeric, outlined⟩ := bind_eq_ok.1 outlined
      obtain rfl := Except.ok.inj outlined
      exact .aggregate (readAggregate_eq_ok.1 named) numeric
  | extremeRows field word =>
      obtain ⟨function, named, outlined⟩ := bind_eq_ok.1 outlined
      split at outlined
      next extreme =>
          obtain ⟨_, numeric, outlined⟩ := bind_eq_ok.1 outlined
          obtain rfl := Except.ok.inj outlined
          exact .extremeRows (readAggregate_eq_ok.1 named) extreme numeric
      next => exact absurd outlined (by simp)
  | frequency field order =>
      obtain ⟨_, known, outlined⟩ := bind_eq_ok.1 outlined
      obtain rfl := Except.ok.inj outlined
      exact .frequency order known
  | withFrequency field count =>
      obtain ⟨_, known, outlined⟩ := bind_eq_ok.1 outlined
      obtain rfl := Except.ok.inj outlined
      exact .withFrequency count known

theorem Outlines.outline {b : QueryBuilder} {request : Request} {o : Outline} (outlines : b.Outlines request o) :
    b.outline request = .ok o := by
  cases outlines with
  | all | window | page | rowCount => rfl
  | columns known => exact bind_eq_ok.2 ⟨(), forM_checked_eq_ok.2 known, rfl⟩
  | distinct known | frequency order known | withFrequency count known => exact bind_eq_ok.2 ⟨(), known, rfl⟩
  | aggregate named numeric =>
      exact bind_eq_ok.2 ⟨_, readAggregate_eq_ok.2 named, bind_eq_ok.2 ⟨(), numeric, rfl⟩⟩
  | extremeRows named extreme numeric =>
      refine bind_eq_ok.2 ⟨_, readAggregate_eq_ok.2 named, ?_⟩
      rw [if_pos extreme]
      exact bind_eq_ok.2 ⟨(), numeric, rfl⟩

/-- The outlines that a builder makes, told request by request. -/
theorem outline_eq_ok {b : QueryBuilder} {request : Request} {o : Outline} :
    b.outline request = .ok o ↔ b.Outlines request o := ⟨outlines_of_outline, Outlines.outline⟩

theorem Outlines.isOf {b : QueryBuilder} {request : Request} {o : Outline} (outlines : b.Outlines request o) :
    (∀ x ∈ o.operands, x.IsOf (b.namedFields request) []) ∧ o.answer.HasPlainLabel := by
  have single (field : String) : (Operand.column (Name.ofText field)).IsOf [field] [] :=
    ⟨field, List.mem_singleton_self field, rfl⟩
  cases outlines with
  | all | window | page | rowCount => exact ⟨by simp [Outline.operands, Answer.operands], trivial⟩
  | columns =>
      refine ⟨?_, trivial⟩
      intro x member
      simp only [Outline.operands, Answer.operands, List.map_map, List.flatMap_nil, Option.toList_none, List.map_nil,
        List.append_nil, List.mem_map] at member
      obtain ⟨field, inside, rfl⟩ := member
      exact ⟨field, inside, rfl⟩
  | @distinct field =>
      refine ⟨?_, trivial⟩
      intro x member
      obtain rfl : x = .column (Name.ofText field) := by simpa [Outline.operands, Answer.operands] using member
      exact single field
  | @aggregate field word function =>
      refine ⟨?_, isPlainWord_append_wordPart (isPlainWord_name function) field⟩
      intro x member
      simp only [Outline.operands, Answer.operands, Option.toList_none, List.map_nil, List.append_nil,
        List.mem_append, List.mem_singleton] at member
      rcases member with rfl | member
      · exact single field
      · exact operands_guard member
  | @extremeRows field =>
      have more {x : Operand} (known : x.IsOf [field] []) : x.IsOf (field :: b.keyFields) [] :=
        known.mono (List.cons_subset_cons field (List.nil_subset _)) (List.Subset.refl _)
      refine ⟨?_, trivial⟩
      intro x member
      simp only [Outline.operands, Answer.operands, Option.toList_some, List.map_map, List.map_cons,
        List.map_nil, List.mem_append, List.mem_map, List.mem_singleton] at member
      rcases member with (⟨key, inside, rfl⟩ | member) | rfl
      · exact ⟨key, List.mem_cons_of_mem _ inside, rfl⟩
      · exact more (operands_guard member)
      · exact more (single field)
  | @frequency field | @withFrequency field =>
      refine ⟨?_, trivial⟩
      intro x member
      simp only [Outline.operands, Answer.operands, Option.toList_none, List.map_nil, List.append_nil,
        List.flatMap_singleton, List.mem_append, List.mem_singleton] at member
      rcases member with rfl | member
      · exact single field
      · exact operands_filled member

theorem filters_isOf {b : QueryBuilder} {x : Operand} (member : x ∈ (b.filters.flatMap b.tests).flatMap Test.operands) :
    x.IsOf (b.filters.map (·.field)) (b.filters.map literalOf) := by
  obtain ⟨t, inside, found⟩ := List.mem_flatMap.1 member
  obtain ⟨f, filter, inside⟩ := List.mem_flatMap.1 inside
  refine (operands_tests (List.mem_flatMap.2 ⟨t, inside, found⟩)).mono ?_ ?_
  · exact List.cons_subset.2 ⟨List.mem_map.2 ⟨f, filter, rfl⟩, List.nil_subset _⟩
  · exact List.cons_subset.2 ⟨List.mem_map.2 ⟨f, filter, rfl⟩, List.nil_subset _⟩

/-- The operands of a query are under the names that its request can use, or fixed texts, or literals of filters. -/
theorem query_isOf {b : QueryBuilder} {request : Request} {q : Query} (made : b.query request = .ok q) :
    (∀ x ∈ q.operands, x.IsOf (b.names request) (b.filters.map literalOf)) ∧ q.answer.HasPlainLabel := by
  obtain ⟨o, outlined, _, rfl⟩ := query_eq_ok.1 made
  obtain ⟨known, label⟩ := (outline_eq_ok.1 outlined).isOf
  refine ⟨?_, by rwa [Outline.answer_query]⟩
  intro x member
  rcases Outline.mem_operands_query member with member | rfl | member
  · refine (known x member).mono ?_ (List.nil_subset _)
    exact fun name inside => List.mem_cons_of_mem _ (List.mem_append_left _ inside)
  · exact ⟨b.table, List.mem_cons_self, rfl⟩
  · refine (filters_isOf member).mono ?_ (List.Subset.refl _)
    exact fun name inside => List.mem_cons_of_mem _ (List.mem_append_right _ inside)

/-- The fields that a request names, but not as keys. -/
def checkedFields (b : QueryBuilder) (request : Request) : List String :=
  QueryBuilder.namedFields { b with keyFields := [] } request

theorem Outlines.checkField {b : QueryBuilder} {request : Request} {o : Outline} (outlines : b.Outlines request o)
    {name : String} (named : name ∈ b.checkedFields request) : b.checkField name = .ok () := by
  cases outlines with
  | all | window | page | rowCount => exact absurd named List.not_mem_nil
  | columns known => exact known name named
  | distinct known | frequency _ known | withFrequency _ known =>
      obtain rfl := List.mem_singleton.1 named
      exact known
  | aggregate _ numeric | extremeRows _ _ numeric =>
      obtain rfl := List.mem_singleton.1 named
      exact checkField_of_checkNumeric numeric

theorem checkField_of_made {b : QueryBuilder} {request : Request} {q : Query} (made : b.query request = .ok q) {name : String}
    (named : name ∈ b.checkedFields request ++ b.filters.map (·.field)) : b.checkField name = .ok () := by
  obtain ⟨o, outlined, correct, _⟩ := query_eq_ok.1 made
  rcases List.mem_append.1 named with named | named
  · exact (outline_eq_ok.1 outlined).checkField named
  · obtain ⟨f, filter, rfl⟩ := List.mem_map.1 named
    obtain ⟨_, checked, _⟩ := bind_eq_ok.1 (correct f filter)
    exact checked

end QueryBuilder

end Datasheet.Sql
