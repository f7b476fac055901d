import Datasheet.Proofs.Sql.Lexing
import Datasheet.Proofs.Text.Pieces
import Datasheet.Sql.Query

/-! # The operands of a query

Everything in a query that is not fixed by its form is an operand: a name or a text. A property of tokens that
plain words, numbers and signs have holds of all tokens of a query if it holds of its operands.
-/

namespace Datasheet.Sql

open Text

/-- The operand of an expression. -/
def Scalar.operand : Scalar → Operand
  | plain x | upper x | trimmed x | day x | decimal x => x

/-- The operands of a test, its patterns included. -/
def Test.operands : Test → List Operand
  | compare left _ right => [left.operand, right.operand]
  | like subject pattern => [subject.operand, pattern.operand, .text "\\"]
  | glob subject _ pattern => [subject.operand, .text pattern]

/-- The operands of an aggregate over a table. -/
def Extreme.operands (e : Extreme) : List Operand :=
  e.value.operand :: .column e.table :: e.tests.flatMap Test.operands

/-- The operands of a condition. -/
def Condition.operands : Condition → List Operand
  | test t => t.operands
  | isExtreme value extreme => value.operand :: extreme.operands

/-- The operands of what is asked for. -/
def Answer.operands : Answer → List Operand
  | rows names _ => names.map .column
  | distinct n => [.column n]
  | rowCount => []
  | aggregate _ value _ => [value.operand]
  | frequencies n _ => [.column n]

/-- The operands of a query. -/
def Query.operands (q : Query) : List Operand :=
  q.answer.operands ++ .column q.table :: q.conditions.flatMap Condition.operands

/-- The name that an aggregate is given is one plain word. -/
def Answer.HasPlainLabel : Answer → Prop
  | aggregate _ _ label => isPlainWord label.toList = true
  | _ => True

/-- A property of tokens that plain words, numbers and signs have. -/
structure Token.IsFormal (P : Token → Prop) : Prop where
  word : ∀ text, isPlainWord text.toList = true → P (.word text)
  number : ∀ n, P (.number n)
  sign : ∀ s, P (.sign s)

theorem Token.isFormal_isPlain : Token.IsFormal Token.IsPlain where
  word _ plain := plain
  number _ := trivial
  sign _ := trivial

theorem Token.isFormal_isNulFree : Token.IsFormal Token.IsNulFree where
  word _ _ := trivial
  number _ := trivial
  sign _ := trivial

theorem isPlainWord_name (function : Aggregate) : isPlainWord function.name.toList = true := by
  cases function <;> decide

theorem FrequencyOrder.isPlainWord_keyword (order : FrequencyOrder) : isPlainWord order.keyword.toList = true := by
  cases order <;> decide

section

variable {P : Token → Prop} (formal : Token.IsFormal P)

include formal

theorem forall_call {function : String} {argument : List Token} (name : isPlainWord function.toList = true)
    (inside : ∀ t ∈ argument, P t) : ∀ t ∈ call function argument, P t := by
  intro t member
  simp only [call, List.mem_cons, List.mem_append, List.not_mem_nil, or_false] at member
  rcases member with rfl | rfl | member | rfl
  · exact formal.word _ name
  · exact formal.sign _
  · exact inside t member
  · exact formal.sign _

theorem forall_countRows : ∀ t ∈ countRows, P t :=
  forall_call formal (by decide) (by simpa using formal.sign .star)

theorem Scalar.forall_tokens {s : Scalar} (operand : P s.operand.token) : ∀ t ∈ s.tokens, P t := by
  have single : ∀ t ∈ [s.operand.token], P t := by simpa using operand
  cases s with
  | plain x => exact single
  | upper x => exact forall_call formal (by decide) single
  | trimmed x => exact forall_call formal (by decide) single
  | day x => exact forall_call formal (by decide) single
  | decimal x =>
      refine forall_call formal (by decide) ?_
      intro t member
      rcases List.mem_cons.1 member with rfl | member
      · exact operand
      · rcases List.mem_cons.1 member with rfl | member
        · exact formal.word _ (by decide)
        · refine forall_call formal (by decide) ?_ t member
          simpa using ⟨formal.number _, formal.sign _, formal.number _⟩

theorem Test.forall_tokens {test : Test} (operands : ∀ x ∈ test.operands, P x.token) :
    ∀ t ∈ test.tokens, P t := by
  cases test with
  | compare left comparison right =>
      simp only [Test.operands, List.forall_mem_cons] at operands
      intro t member
      simp only [Test.tokens, List.mem_append, List.mem_cons] at member
      rcases member with member | rfl | member
      · exact Scalar.forall_tokens formal operands.1 t member
      · exact formal.sign _
      · exact Scalar.forall_tokens formal operands.2.1 t member
  | like subject pattern =>
      simp only [Test.operands, List.forall_mem_cons] at operands
      intro t member
      simp only [Test.tokens, List.mem_append, List.mem_cons, List.not_mem_nil, or_false] at member
      rcases member with member | rfl | member | rfl | rfl
      · exact Scalar.forall_tokens formal operands.1 t member
      · exact formal.word _ (by decide)
      · exact Scalar.forall_tokens formal operands.2.1 t member
      · exact formal.word _ (by decide)
      · exact operands.2.2.1
  | glob subject negated pattern =>
      simp only [Test.operands, List.forall_mem_cons] at operands
      intro t member
      simp only [Test.tokens, List.mem_append, List.mem_cons, List.not_mem_nil, or_false] at member
      rcases member with member | member | rfl | rfl
      · exact Scalar.forall_tokens formal operands.1 t member
      · cases negated with
        | false => simp at member
        | true =>
            obtain rfl : t = .word "NOT" := by simpa using member
            exact formal.word _ (by decide)
      · exact formal.word _ (by decide)
      · exact operands.2.1

theorem forall_restriction {parts : List (List Token)} (inside : ∀ part ∈ parts, ∀ t ∈ part, P t) :
    ∀ t ∈ restriction parts, P t := by
  cases parts with
  | nil => simp [restriction]
  | cons part parts =>
      intro t member
      rcases List.mem_cons.1 member with rfl | member
      · exact formal.word _ (by decide)
      · exact forall_joinWith (formal.word _ (by decide)) inside t member

theorem forall_tests {tests : List Test} (operands : ∀ x ∈ tests.flatMap Test.operands, P x.token) :
    ∀ part ∈ tests.map Test.tokens, ∀ t ∈ part, P t := by
  intro part member
  obtain ⟨test, inside, rfl⟩ := List.mem_map.1 member
  exact Test.forall_tokens formal fun x found => operands x (List.mem_flatMap.2 ⟨test, inside, found⟩)

theorem Extreme.forall_tokens {e : Extreme} (operands : ∀ x ∈ e.operands, P x.token) : ∀ t ∈ e.tokens, P t := by
  simp only [Extreme.operands, List.forall_mem_cons] at operands
  intro t member
  simp only [Extreme.tokens, List.mem_cons, List.mem_append] at member
  rcases member with rfl | member | rfl | rfl | member
  · exact formal.word _ (by decide)
  · exact forall_call formal (isPlainWord_name e.function) (Scalar.forall_tokens formal operands.1) t member
  · exact formal.word _ (by decide)
  · exact operands.2.1
  · exact forall_restriction formal (forall_tests formal operands.2.2) t member

theorem Condition.forall_tokens {c : Condition} (operands : ∀ x ∈ c.operands, P x.token) : ∀ t ∈ c.tokens, P t := by
  cases c with
  | test single => exact Test.forall_tokens formal operands
  | isExtreme value extreme =>
      simp only [Condition.operands, List.forall_mem_cons] at operands
      intro t member
      simp only [Condition.tokens, List.mem_cons, List.mem_append, List.not_mem_nil, or_false] at member
      rcases member with member | rfl | rfl | member | rfl
      · exact Scalar.forall_tokens formal operands.1 t member
      · exact formal.sign _
      · exact formal.sign _
      · exact Extreme.forall_tokens formal operands.2 t member
      · exact formal.sign _

theorem Answer.forall_subject {a : Answer} (label : a.HasPlainLabel) (operands : ∀ x ∈ a.operands, P x.token) :
    ∀ t ∈ a.subject, P t := by
  cases a with
  | rows names window =>
      cases names with
      | nil => simpa [Answer.subject, columnTokens] using formal.sign .star
      | cons name names =>
          refine forall_joinWith (formal.sign _) ?_
          intro part member
          obtain ⟨n, inside, rfl⟩ := List.mem_map.1 member
          have known : P n.token := operands (.column n) (List.mem_map.2 ⟨n, inside, rfl⟩)
          simpa using known
  | distinct n =>
      have known := operands (.column n) List.mem_cons_self
      simpa [Answer.subject] using ⟨formal.word _ (by decide), known⟩
  | rowCount =>
      intro t member
      rcases List.mem_append.1 member with member | member
      · exact forall_countRows formal t member
      · have words : ∀ t ∈ [Token.word "as", .word "num_rows"], P t := by
          simpa using ⟨formal.word _ (by decide), formal.word _ (by decide)⟩
        exact words t member
  | aggregate function value name =>
      intro t member
      rcases List.mem_append.1 member with member | member
      · have known := operands value.operand List.mem_cons_self
        exact forall_call formal (isPlainWord_name function) (Scalar.forall_tokens formal known) t member
      · have words : ∀ t ∈ [Token.word "as", .word name], P t := by
          simpa using ⟨formal.word _ (by decide), formal.word _ label⟩
        exact words t member
  | frequencies n pick =>
      have known := operands (.column n) List.mem_cons_self
      intro t member
      simp only [Answer.subject, List.mem_cons, List.mem_append, List.not_mem_nil, or_false] at member
      rcases member with rfl | rfl | member | rfl | rfl
      · exact known
      · exact formal.sign _
      · exact forall_countRows formal t member
      · exact formal.word _ (by decide)
      · exact formal.word _ (by decide)

theorem Answer.forall_suffix {a : Answer} (operands : ∀ x ∈ a.operands, P x.token) : ∀ t ∈ a.suffix, P t := by
  cases a with
  | rows names window =>
      cases window with
      | none => simp [Answer.suffix]
      | some w =>
          simpa [Answer.suffix] using
            ⟨formal.word "LIMIT" (by decide), formal.number _, formal.word "OFFSET" (by decide), formal.number _⟩
  | distinct | rowCount | aggregate => simp [Answer.suffix]
  | frequencies n pick =>
      have known : P n.token := operands (.column n) List.mem_cons_self
      have group := formal.word "GROUP" (by decide)
      have formalBy := formal.word "BY" (by decide)
      have order := formal.word "ORDER" (by decide)
      cases pick with
      | first side =>
          simp only [Answer.suffix, List.forall_mem_cons]
          exact ⟨group, formalBy, known, order, formalBy, formal.word _ (by decide), formal.word _ side.isPlainWord_keyword,
            formal.word _ (by decide), formal.number _, by simp⟩
      | exactly count =>
          simp only [Answer.suffix, List.forall_mem_append, List.forall_mem_cons]
          exact ⟨⟨⟨group, formalBy, known, formal.word _ (by decide), by simp⟩, forall_countRows formal⟩,
            formal.sign _, formal.number _, order, formalBy, known, by simp⟩

/-- A property of plain words, numbers and signs that the operands of a query have, all its tokens have. -/
theorem Query.forall_tokens {q : Query} (label : q.answer.HasPlainLabel) (operands : ∀ x ∈ q.operands, P x.token) :
    ∀ t ∈ q.tokens, P t := by
  simp only [Query.operands, List.forall_mem_append, List.forall_mem_cons] at operands
  obtain ⟨answer, table, conditions⟩ := operands
  intro t member
  simp only [Query.tokens, List.mem_cons, List.mem_append] at member
  rcases member with rfl | member | rfl | rfl | member | member
  · exact formal.word _ (by decide)
  · exact Answer.forall_subject formal label answer t member
  · exact formal.word _ (by decide)
  · exact table
  · refine forall_restriction formal ?_ t member
    intro part inside
    obtain ⟨c, found, rfl⟩ := List.mem_map.1 inside
    exact Condition.forall_tokens formal fun x known => conditions x (List.mem_flatMap.2 ⟨c, found, known⟩)
  · exact Answer.forall_suffix formal answer t member

end

/-! ## Operands among the tokens -/

theorem Scalar.mem_tokens (s : Scalar) : s.operand.token ∈ s.tokens := by
  cases s <;> simp [operand, tokens, call]

theorem Test.mem_tokens {t : Test} {x : Operand} (member : x ∈ t.operands) : x.token ∈ t.tokens := by
  cases t with
  | compare left comparison right =>
      simp only [operands, List.mem_cons, List.not_mem_nil, or_false] at member
      rcases member with rfl | rfl <;> simp [tokens, Scalar.mem_tokens]
  | like subject pattern =>
      simp only [operands, List.mem_cons, List.not_mem_nil, or_false] at member
      rcases member with rfl | rfl | rfl
      · simp [tokens, Scalar.mem_tokens]
      · simp [tokens, Scalar.mem_tokens]
      · simp [tokens, Operand.token]
  | glob subject negated pattern =>
      simp only [operands, List.mem_cons, List.not_mem_nil, or_false] at member
      rcases member with rfl | rfl
      · simp [tokens, Scalar.mem_tokens]
      · simp [tokens, Operand.token]

theorem mem_restriction {parts : List (List Token)} {part : List Token} (member : part ∈ parts) {t : Token}
    (inside : t ∈ part) : t ∈ restriction parts := by
  cases parts with
  | nil => exact absurd member List.not_mem_nil
  | cons first parts => exact List.mem_cons_of_mem _ (mem_joinWith member inside)

theorem Condition.mem_tokens {c : Condition} {x : Operand} (member : x ∈ c.operands) : x.token ∈ c.tokens := by
  cases c with
  | test t => exact Test.mem_tokens member
  | isExtreme value e =>
      simp only [operands, Extreme.operands, List.mem_cons] at member
      rcases member with rfl | rfl | rfl | member
      · simp [tokens, Scalar.mem_tokens]
      · simp [tokens, Extreme.tokens, call, Scalar.mem_tokens]
      · simp [tokens, Extreme.tokens, Operand.token]
      · obtain ⟨t, test, inside⟩ := List.mem_flatMap.1 member
        have known := mem_restriction (List.mem_map.2 ⟨t, test, rfl⟩) (Test.mem_tokens inside)
        simp [tokens, Extreme.tokens, known]

theorem Answer.mem_subject {a : Answer} {x : Operand} (member : x ∈ a.operands) : x.token ∈ a.subject := by
  cases a with
  | rows names window =>
      obtain ⟨n, inside, rfl⟩ := List.mem_map.1 member
      cases names with
      | nil => exact absurd inside List.not_mem_nil
      | cons first names => exact mem_joinWith (List.mem_map.2 ⟨n, inside, rfl⟩) (List.mem_singleton_self _)
  | distinct n | frequencies n pick =>
      obtain rfl := List.mem_singleton.1 member
      simp [subject, Operand.token]
  | rowCount => exact absurd member List.not_mem_nil
  | aggregate function value label =>
      obtain rfl := List.mem_singleton.1 member
      simp [subject, call, Scalar.mem_tokens]

theorem Query.mem_tokens {q : Query} {x : Operand} (member : x ∈ q.operands) : x.token ∈ q.tokens := by
  rcases List.mem_append.1 member with member | member
  · simp [tokens, Answer.mem_subject member]
  · rcases List.mem_cons.1 member with rfl | member
    · simp [tokens, Operand.token]
    · obtain ⟨c, condition, inside⟩ := List.mem_flatMap.1 member
      have known := mem_restriction (List.mem_map.2 ⟨c, condition, rfl⟩) (Condition.mem_tokens inside)
      simp [tokens, known]

end Datasheet.Sql
