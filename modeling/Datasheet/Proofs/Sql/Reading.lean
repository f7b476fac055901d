import Datasheet.Proofs.Sql.Operands
import Datasheet.Sql.Reader

/-! # Reading queries back

The engine reads the query that a text was made of, if it takes no name of the query for a keyword. Each part of
a query is read back whatever follows it, as long as that is no opening parenthesis, after which a name would be
a function, and no keyword that would continue the part.
-/

namespace Datasheet.Sql

/-- The engine reads the name back as the name of a table. -/
def Name.IsTable (n : Name) : Prop := Name.ofToken? n.token = some n

/-- The engine reads the name back in an expression. -/
def Name.IsColumn (n : Name) : Prop := Name.ofExpression? n.token = some n

/-- The engine reads the operand back. -/
def Operand.IsReadable : Operand → Prop
  | column n => n.IsColumn
  | text _ => True

/-- The engine reads all names of the condition back. -/
def Condition.IsReadable : Condition → Prop
  | test t => ∀ x ∈ t.operands, x.IsReadable
  | isExtreme value e =>
      value.operand.IsReadable ∧ e.value.operand.IsReadable ∧ e.table.IsTable
        ∧ ∀ t ∈ e.tests, ∀ x ∈ t.operands, x.IsReadable

/-- The engine reads all names of the query back. -/
structure Query.IsReadable (q : Query) : Prop where
  answer : ∀ x ∈ q.answer.operands, x.IsReadable
  table : q.table.IsTable
  conditions : ∀ c ∈ q.conditions, c.IsReadable

/-- No opening parenthesis stands here. -/
def Breaks (rest : List Token) : Prop := rest.head? ≠ some (.sign .opening)

theorem breaks_word (text : String) (rest : List Token) : Breaks (.word text :: rest) := by simp [Breaks]

theorem breaks_sign {s : Sign} (other : s ≠ .opening) (rest : List Token) : Breaks (.sign s :: rest) := by
  simpa [Breaks] using other

/-! ## Expressions -/

theorem Operand.read?_token {x : Operand} (readable : x.IsReadable) (rest : List Token) :
    Operand.read? (x.token :: rest) = some (x, rest) := by
  cases x with
  | column n =>
      rw [IsReadable, Name.IsColumn] at readable
      have noLiteral : ∀ value, n.token ≠ .literal value := by
        intro value
        rw [Name.token]
        split <;> simp
      rw [Operand.token, Operand.read?, readable]
      · rfl
      · exact noLiteral
  | text value => rfl

theorem Scalar.read?_call {x : Operand} (readable : x.IsReadable) (rest : List Token) :
    Scalar.read? (call "UPPER" [x.token] ++ rest) = some (.upper x, rest)
      ∧ Scalar.read? (call "trim" [x.token] ++ rest) = some (.trimmed x, rest)
      ∧ Scalar.read? (call "date" [x.token] ++ rest) = some (.day x, rest) := by
  have inside := Operand.read?_token readable (.sign .closing :: rest)
  refine ⟨?_, ?_, ?_⟩
  · rw [call, List.cons_append, List.cons_append, Scalar.read?, List.singleton_append, List.cons_append,
      List.singleton_append, inside]
    rfl
  · rw [call, List.cons_append, List.cons_append, Scalar.read?, List.singleton_append, List.cons_append,
      List.singleton_append, inside]
    rfl
  · rw [call, List.cons_append, List.cons_append, Scalar.read?, List.singleton_append, List.cons_append,
      List.singleton_append, inside]
    rfl

theorem Scalar.read?_tokens {s : Scalar} (readable : s.operand.IsReadable) {rest : List Token} (breaks : Breaks rest) :
    Scalar.read? (s.tokens ++ rest) = some (s, rest) := by
  cases s with
  | plain x =>
      have inside : Operand.read? (x.token :: rest) = some (x, rest) := Operand.read?_token readable rest
      rw [Scalar.tokens, List.singleton_append, Scalar.read?, inside]
      · rfl
      · rintro function later same
        obtain ⟨-, rfl⟩ := List.cons.inj same
        exact breaks rfl
  | upper x => exact (read?_call readable rest).1
  | trimmed x => exact (read?_call readable rest).2.1
  | day x => exact (read?_call readable rest).2.2
  | decimal x =>
      have inside := @Operand.read?_token x readable (.word "as" :: (decimalType ++ .sign .closing :: rest))
      have tokens : (decimal x).tokens ++ rest = .word "CAST" :: .sign .opening
          :: x.token :: .word "as" :: (decimalType ++ .sign .closing :: rest) := by
        simp [Scalar.tokens, call]
      rw [tokens, Scalar.read?, inside]
      rfl

theorem Scalar.breaks_tokens (s : Scalar) (rest : List Token) : Breaks (s.tokens ++ rest) := by
  cases s with
  | plain x =>
      cases x with
      | column n =>
          rw [Scalar.tokens, Operand.token, Name.token]
          split <;> simp [Breaks]
      | text value => simp [Breaks, Scalar.tokens, Operand.token]
  | upper | trimmed | day | decimal => exact breaks_word _ _

/-! ## Tests -/

theorem Comparison.ofSign?_sign (c : Comparison) : Comparison.ofSign? c.sign = some c := by cases c <;> rfl

/-- What a test says of its left side. -/
def Test.tail : Test → List Token
  | compare _ comparison right => .sign comparison.sign :: right.tokens
  | like _ pattern => .word "LIKE" :: (pattern.tokens ++ [.word "ESCAPE", .literal "\\"])
  | glob _ negated pattern => (if negated then [.word "NOT"] else []) ++ [.word "GLOB", .literal pattern]

/-- The left side of a test. -/
def Test.left : Test → Scalar
  | compare left _ _ => left
  | like subject _ => subject
  | glob subject _ _ => subject

theorem Test.tokens_eq (t : Test) : t.tokens = t.left.tokens ++ t.tail := by cases t <;> rfl

theorem Test.breaks_tail (t : Test) (rest : List Token) : Breaks (t.tail ++ rest) := by
  cases t with
  | compare left comparison right => exact breaks_sign (by cases comparison <;> decide) _
  | like subject pattern => exact breaks_word _ _
  | glob subject negated pattern => cases negated <;> exact breaks_word _ _

theorem Test.isReadable_left {t : Test} (readable : ∀ x ∈ t.operands, x.IsReadable) : t.left.operand.IsReadable := by
  cases t <;> exact readable _ List.mem_cons_self

theorem Test.readAfter?_like (subject : Scalar) {pattern : Scalar} (readable : pattern.operand.IsReadable)
    (rest : List Token) :
    Test.readAfter? subject ((like subject pattern).tail ++ rest) = some (.like subject pattern, rest) := by
  have inside := Scalar.read?_tokens readable (breaks_word "ESCAPE" (.literal "\\" :: rest))
  have tail : (like subject pattern).tail ++ rest
      = .word "LIKE" :: (pattern.tokens ++ .word "ESCAPE" :: .literal "\\" :: rest) := by simp [Test.tail]
  rw [tail]
  cases pattern with
  | plain x =>
      cases x with
      | text value => rfl
      | column n =>
          have general (t : Token) (noLiteral : ∀ value, t ≠ .literal value)
              (read : Scalar.read? (t :: .word "ESCAPE" :: .literal "\\" :: rest)
                = some (.plain (.column n), .word "ESCAPE" :: .literal "\\" :: rest)) :
              Test.readAfter? subject (.word "LIKE" :: t :: .word "ESCAPE" :: .literal "\\" :: rest)
                = some (.like subject (.plain (.column n)), rest) := by
            cases t with
            | literal value => exact absurd rfl (noLiteral value)
            | word | quoted | number | sign =>
                rw [Test.readAfter?, read]
                · rfl
                all_goals simp
          refine general n.token ?_ inside
          intro value
          rw [Name.token]
          split <;> simp
  | upper x | trimmed x | day x | decimal x =>
      rw [Scalar.tokens, call, List.cons_append, List.cons_append] at inside ⊢
      rw [Test.readAfter?, inside]
      · rfl
      all_goals simp

theorem Test.readAfter?_tail {t : Test} (readable : ∀ x ∈ t.operands, x.IsReadable) {rest : List Token}
    (breaks : Breaks rest) : Test.readAfter? t.left (t.tail ++ rest) = some (t, rest) := by
  cases t with
  | compare left comparison right =>
      have right' : right.operand.IsReadable := readable _ (by simp [Test.operands])
      rw [Test.tail, List.cons_append, Test.readAfter?, Comparison.ofSign?_sign]
      simp [Scalar.read?_tokens right' breaks, Test.left]
  | like subject pattern =>
      have pattern' : pattern.operand.IsReadable := readable _ (by simp [Test.operands])
      exact Test.readAfter?_like subject pattern' rest
  | glob subject negated pattern => cases negated <;> rfl

theorem Test.read?_tokens {t : Test} (readable : ∀ x ∈ t.operands, x.IsReadable) {rest : List Token}
    (breaks : Breaks rest) : Test.read? (t.tokens ++ rest) = some (t, rest) := by
  have left := Scalar.read?_tokens (Test.isReadable_left readable) (t.breaks_tail rest)
  rw [Test.read?, Test.tokens_eq, List.append_assoc, left]
  exact Test.readAfter?_tail readable breaks

/-! ## Restrictions -/

section

variable {α : Type} {read : List Token → Option (α × List Token)} {write : α → List Token} {parts : List α}

/-- Conditions that are read one by one are read together, up to the first that no "and" follows. -/
theorem readConjunctionWith_conjunction
    (reads : ∀ c ∈ parts, ∀ rest, Breaks rest → read (write c ++ rest) = some (c, rest)) (nonempty : parts ≠ [])
    {rest : List Token} (breaks : Breaks rest) (ends : expectWord "AND" rest = none) {fuel : Nat}
    (enough : parts.length ≤ fuel) :
    readConjunctionWith read fuel (conjunction (parts.map write) ++ rest) = some (parts, rest) := by
  induction parts generalizing fuel with
  | nil => exact absurd rfl nonempty
  | cons c parts ih =>
      cases fuel with
      | zero => simp at enough
      | succ fuel =>
          cases parts with
          | nil =>
              have first := reads c List.mem_cons_self rest breaks
              simp [conjunction, Text.joinWith, readConjunctionWith, first, ends]
          | cons d parts =>
              have later := ih (fun e member => reads e (List.mem_cons_of_mem _ member)) (List.cons_ne_nil _ _)
                (Nat.le_of_succ_le_succ enough)
              have first := reads c List.mem_cons_self _
                (breaks_word "AND" (conjunction ((d :: parts).map write) ++ rest))
              have joined : conjunction ((c :: d :: parts).map write) ++ rest
                  = write c ++ .word "AND" :: (conjunction ((d :: parts).map write) ++ rest) := by
                simp [conjunction, Text.joinWith]
              have goesOn (tokens : List Token) : expectWord "AND" (.word "AND" :: tokens) = some tokens := rfl
              rw [joined, readConjunctionWith, first]
              simp only [Option.bind_eq_bind, Option.bind_some, goesOn, later]

theorem readRestriction_restriction
    (reads : ∀ c ∈ parts, ∀ rest, Breaks rest → read (write c ++ rest) = some (c, rest))
    (solid : ∀ c ∈ parts, write c ≠ []) {rest : List Token} (breaks : Breaks rest)
    (ends : expectWord "AND" rest = none) (unrestricted : expectWord "WHERE" rest = none) :
    readRestriction read (restriction (parts.map write) ++ rest) = some (parts, rest) := by
  cases parts with
  | nil => simp [restriction, readRestriction, unrestricted]
  | cons c parts =>
      have goesOn (tokens : List Token) : expectWord "WHERE" (.word "WHERE" :: tokens) = some tokens := rfl
      have solid' : ∀ part ∈ (c :: parts).map write, part ≠ [] := by simpa using solid
      have enough : (c :: parts).length ≤ (conjunction ((c :: parts).map write) ++ rest).length := by
        have known := Text.length_le_joinWith (.word "AND") solid'
        rw [List.length_map] at known
        rw [List.length_append]
        exact Nat.le_add_right_of_le known
      have whole := readConjunctionWith_conjunction reads (List.cons_ne_nil c parts) breaks ends enough
      rw [List.map_cons, restriction, List.cons_append, readRestriction, goesOn]
      · exact whole
      · exact List.cons_ne_nil _ _

end

theorem Scalar.tokens_ne_nil (s : Scalar) : s.tokens ≠ [] := by
  cases s <;> exact List.cons_ne_nil _ _

theorem Test.tokens_ne_nil (t : Test) : t.tokens ≠ [] := by
  rw [Test.tokens_eq]
  exact List.append_ne_nil_of_left_ne_nil t.left.tokens_ne_nil _

theorem Condition.tokens_ne_nil (c : Condition) : c.tokens ≠ [] := by
  cases c with
  | test t => exact t.tokens_ne_nil
  | isExtreme value e => exact List.append_ne_nil_of_left_ne_nil value.tokens_ne_nil _

theorem readTable_token {n : Name} (readable : n.IsTable) (rest : List Token) :
    readTable (.word "FROM" :: n.token :: rest) = some (n, rest) := by
  have goesOn : expectWord "FROM" (.word "FROM" :: n.token :: rest) = some (n.token :: rest) := rfl
  rw [Name.IsTable] at readable
  simp [readTable, goesOn, readable]

theorem readAggregateCall_call (function : Aggregate) {value : Scalar} (readable : value.operand.IsReadable)
    (rest : List Token) :
    readAggregateCall (call function.name value.tokens ++ rest) = some ((function, value), rest) := by
  have found : ([Aggregate.avg, .sum, .max, .min, .count].find? fun f => upperWord f.name == upperWord function.name)
      = some function := by
    cases function <;> decide
  have closing : Breaks (.sign .closing :: rest) := breaks_sign (by decide) rest
  have inside := Scalar.read?_tokens readable closing
  have tokens : call function.name value.tokens ++ rest
      = .word function.name :: .sign .opening :: (value.tokens ++ .sign .closing :: rest) := by simp [call]
  simp [tokens, readAggregateCall, found, inside, expectSign]

/-! ## Conditions -/

theorem Extreme.read?_tokens {e : Extreme} (value : e.value.operand.IsReadable) (table : e.table.IsTable)
    (tests : ∀ t ∈ e.tests, ∀ x ∈ t.operands, x.IsReadable) (rest : List Token) :
    Extreme.read? (e.tokens ++ .sign .closing :: rest) = some (e, .sign .closing :: rest) := by
  have closing : Breaks (.sign .closing :: rest) := breaks_sign (by decide) rest
  have restricted := @readRestriction_restriction _ Test.read? Test.tokens e.tests
    (fun t member _ breaks => Test.read?_tokens (tests t member) breaks) (fun t _ => t.tokens_ne_nil) _ closing rfl rfl
  have tokens : e.tokens ++ .sign .closing :: rest = .word "SELECT" :: (call e.function.name e.value.tokens
      ++ .word "FROM" :: e.table.token :: (restriction (e.tests.map Test.tokens) ++ .sign .closing :: rest)) := by
    simp [Extreme.tokens]
  have goesOn (tokens : List Token) : expectWord "SELECT" (.word "SELECT" :: tokens) = some tokens := rfl
  simp [tokens, Extreme.read?, goesOn, readAggregateCall_call e.function value, readTable_token table, restricted]

theorem Test.tail_ne_extreme (t : Test) (rest later : List Token) :
    t.tail ++ rest ≠ .sign .equal :: .sign .opening :: later := by
  cases t with
  | compare left comparison right =>
      intro same
      obtain ⟨_, same⟩ := List.cons.inj same
      exact right.breaks_tokens rest (congrArg List.head? same)
  | like subject pattern => simp [Test.tail]
  | glob subject negated pattern => cases negated <;> simp [Test.tail]

theorem Condition.read?_tokens {c : Condition} (readable : c.IsReadable) {rest : List Token} (breaks : Breaks rest) :
    Condition.read? (c.tokens ++ rest) = some (c, rest) := by
  cases c with
  | test t =>
      have left := Scalar.read?_tokens (Test.isReadable_left readable) (t.breaks_tail rest)
      have after := Test.readAfter?_tail readable breaks
      rw [Condition.read?, Condition.tokens, Test.tokens_eq, List.append_assoc, left]
      simp only [Option.bind_eq_bind, Option.bind_some]
      split
      next later same => exact absurd same (t.tail_ne_extreme rest later)
      next => simp [after]
  | isExtreme value e =>
      obtain ⟨operand, value', table, tests⟩ := readable
      have inside := Extreme.read?_tokens value' table tests rest
      have left := Scalar.read?_tokens operand
        (@breaks_sign .equal (by decide) (.sign .opening :: (e.tokens ++ .sign .closing :: rest)))
      have tokens : (isExtreme value e).tokens ++ rest
          = value.tokens ++ .sign .equal :: .sign .opening :: (e.tokens ++ .sign .closing :: rest) := by
        simp [Condition.tokens]
      simp [tokens, Condition.read?, left, inside, expectSign]

/-! ## Answers -/

theorem Name.IsColumn.not_isKeyword {n : Name} (readable : n.IsColumn) {text : String} (word : n.token = .word text)
    (keyword : String) (reserved : keyword ∈ reservedWords) (noNull : keyword ≠ "NULL") :
    isKeyword keyword text = false := by
  have noClock : ∀ word ∈ clockWords, word ∉ reservedWords := by decide
  rw [Name.IsColumn, word, Name.ofExpression?] at readable
  by_contra same
  have same : upperWord text = keyword := by simpa [isKeyword] using same
  have noValue : valueWords.contains keyword = false := by
    rw [Bool.eq_false_iff, Ne, List.contains_iff_mem, valueWords, List.mem_cons, not_or]
    exact ⟨noNull, fun clock => noClock keyword clock reserved⟩
  rw [same, noValue] at readable
  simp only [Bool.false_eq_true, if_false] at readable
  split at readable
  next => exact absurd readable (by simp)
  next => simp [Name.ofToken?, same, reserved] at readable

theorem Name.expectWord_distinct {n : Name} (readable : n.IsColumn) (rest : List Token) :
    expectWord "DISTINCT" (n.token :: rest) = none := by
  cases word : n.token with
  | word text => simp [expectWord, readable.not_isKeyword word "DISTINCT" (by decide) (by decide)]
  | quoted | literal | number | sign => rfl

theorem Name.token_ne_sign (n : Name) (s : Sign) : n.token ≠ .sign s := by
  rw [Name.token]
  split <;> simp

theorem readNames_names {names : List Name} (readable : ∀ n ∈ names, n.IsColumn) (nonempty : names ≠ [])
    (rest : List Token) :
    readNames (columnTokens names ++ .word "FROM" :: rest) = some (names, .word "FROM" :: rest) := by
  induction names with
  | nil => exact absurd rfl nonempty
  | cons n names ih =>
      have first : Name.ofExpression? n.token = some n := readable n List.mem_cons_self
      cases names with
      | nil =>
          have tokens : columnTokens [n] ++ .word "FROM" :: rest = n.token :: .word "FROM" :: rest := rfl
          rw [tokens, readNames, first]
          · rfl
          · simp
      | cons m names =>
          have later := ih (fun k member => readable k (List.mem_cons_of_mem _ member)) (List.cons_ne_nil _ _)
          have tokens : columnTokens (n :: m :: names) ++ .word "FROM" :: rest
              = n.token :: .sign .comma :: (columnTokens (m :: names) ++ .word "FROM" :: rest) := by
            simp [columnTokens, Text.joinWith]
          simp [tokens, readNames, first, later]

/-- What a query's beginning tells of its answer. -/
def Answer.beginning : Answer → Subject
  | rows columns _ => .rows columns
  | distinct column => .distinct column
  | rowCount => .rowCount
  | aggregate function value label => .aggregate function value label
  | frequencies column _ => .frequencies column

theorem readAggregateCall_name (t u : Token) (rest : List Token) (noCall : u ≠ .sign .opening) :
    readAggregateCall (t :: u :: rest) = none := by
  rw [readAggregateCall]
  simp_all

theorem readCount_name (label : String) (t u : Token) (rest : List Token) (noCall : u ≠ .sign .opening) :
    readCount label (t :: u :: rest) = none := by
  rw [readCount]
  simp_all

theorem columnTokens_shape (n : Name) (names : List Name) (rest : List Token) :
    ∃ u later, columnTokens (n :: names) ++ .word "FROM" :: rest = n.token :: u :: later
      ∧ u ≠ .sign .opening ∧ Name.ofExpression? u = none ∧ (u = .sign .comma → readCount "freq" later = none) := by
  cases names with
  | nil => exact ⟨.word "FROM", rest, rfl, by simp, by decide, by simp⟩
  | cons m names =>
      cases names with
      | nil =>
          exact ⟨.sign .comma, m.token :: .word "FROM" :: rest, rfl, by simp, rfl, fun _ => readCount_name _ _ _ _ (by simp)⟩
      | cons k names =>
          exact ⟨.sign .comma, m.token :: .sign .comma :: (columnTokens (k :: names) ++ .word "FROM" :: rest),
            by simp [columnTokens, Text.joinWith], by simp, rfl, fun _ => readCount_name _ _ _ _ (by simp)⟩

/-- A list of columns is no other beginning of a query, unless its first name is the keyword for distinct values. -/
theorem Subject.read?_columns {n : Name} {names : List Name} {rest : List Token}
    (noDistinct : ∀ rest, expectWord "DISTINCT" (n.token :: rest) = none) :
    Subject.read? (columnTokens (n :: names) ++ .word "FROM" :: rest)
      = (readNames (columnTokens (n :: names) ++ .word "FROM" :: rest)).map fun (names, rest) => (.rows names, rest) := by
  obtain ⟨u, later, tokens, noCall, _, noCount⟩ := columnTokens_shape n names rest
  have noFrequencies : readFrequencies (n.token :: u :: later) = none := by
    by_cases comma : u = .sign .comma
    · subst comma
      simp [readFrequencies, noCount rfl]
    · rw [readFrequencies]
      simp_all
  have noLabel : readLabelled (n.token :: u :: later) = none := by
    simp [readLabelled, readAggregateCall_name n.token u later noCall]
  rw [tokens, Subject.read?, noDistinct, readCount_name _ _ _ _ noCall, noFrequencies, noLabel]
  · rfl
  · intro later' same
    exact Name.token_ne_sign n .star (List.cons.inj same).1

theorem Subject.read?_rows {names : List Name} (readable : ∀ n ∈ names, n.IsColumn) (rest : List Token) :
    Subject.read? (columnTokens names ++ .word "FROM" :: rest) = some (.rows names, .word "FROM" :: rest) := by
  have whole (nonempty : names ≠ []) := readNames_names readable nonempty rest
  cases names with
  | nil => rfl
  | cons n names =>
      rw [Subject.read?_columns (Name.expectWord_distinct (readable n List.mem_cons_self)), whole (List.cons_ne_nil _ _)]
      rfl

theorem Subject.read?_call (function : Aggregate) (value : Scalar) (rest : List Token) :
    Subject.read? (call function.name value.tokens ++ rest)
      = (readLabelled (call function.name value.tokens ++ rest)).or
        ((readNames (call function.name value.tokens ++ rest)).map fun (names, rest) => (.rows names, rest)) := by
  obtain ⟨u, later, argument, noStar⟩ : ∃ u later, value.tokens ++ .sign .closing :: rest = u :: later
      ∧ u ≠ .sign .star := by
    cases value with
    | plain x =>
        refine ⟨x.token, _, rfl, ?_⟩
        cases x with
        | column n => exact n.token_ne_sign .star
        | text value => simp [Operand.token]
    | upper | trimmed | day | decimal => exact ⟨_, _, rfl, by simp⟩
  have tokens : call function.name value.tokens ++ rest = .word function.name :: .sign .opening :: u :: later := by
    simp [call, ← argument]
  have noDistinct : expectWord "DISTINCT" (.word function.name :: .sign .opening :: u :: later) = none := by
    cases function <;> rfl
  have noCount : readCount "num_rows" (.word function.name :: .sign .opening :: u :: later) = none := by
    rw [readCount]
    simp_all
  have noFrequencies : readFrequencies (.word function.name :: .sign .opening :: u :: later) = none := rfl
  rw [tokens, Subject.read?, noDistinct, noCount, noFrequencies]
  · rfl
  · simp

theorem Subject.read?_subject {a : Answer} (readable : ∀ x ∈ a.operands, x.IsReadable) (rest : List Token) :
    Subject.read? (a.subject ++ .word "FROM" :: rest) = some (a.beginning, .word "FROM" :: rest) := by
  cases a with
  | rows names window =>
      exact Subject.read?_rows (fun n member => readable (.column n) (List.mem_map.2 ⟨n, member, rfl⟩)) rest
  | distinct n =>
      have column : n.IsColumn := readable (.column n) List.mem_cons_self
      have goesOn : expectWord "DISTINCT" (.word "DISTINCT" :: n.token :: .word "FROM" :: rest)
          = some (n.token :: .word "FROM" :: rest) := rfl
      rw [Name.IsColumn] at column
      simp [Answer.subject, Subject.read?, goesOn, column, Answer.beginning]
  | rowCount => rfl
  | aggregate function value label =>
      have known := readAggregateCall_call function (readable value.operand List.mem_cons_self)
        (.word "as" :: .word label :: .word "FROM" :: rest)
      have tokens : (Answer.aggregate function value label).subject ++ .word "FROM" :: rest
          = call function.name value.tokens ++ .word "as" :: .word label :: .word "FROM" :: rest := by
        simp [Answer.subject]
      have joint : expectWord "AS" (.word "as" :: .word label :: .word "FROM" :: rest)
          = some (.word label :: .word "FROM" :: rest) := rfl
      rw [tokens, Subject.read?_call]
      simp [readLabelled, known, joint, Answer.beginning]
  | frequencies n pick =>
      have column : n.IsColumn := readable (.column n) List.mem_cons_self
      have noDistinct := Name.expectWord_distinct column
        (.sign .comma :: (countRows ++ .word "as" :: .word "freq" :: .word "FROM" :: rest))
      have tokens : (Answer.frequencies n pick).subject ++ .word "FROM" :: rest
          = n.token :: .sign .comma :: (countRows ++ .word "as" :: .word "freq" :: .word "FROM" :: rest) := by
        simp [Answer.subject]
      have counted : readCount "freq" (countRows ++ .word "as" :: .word "freq" :: .word "FROM" :: rest)
          = some (.word "FROM" :: rest) := rfl
      rw [Name.IsColumn] at column
      rw [tokens, Subject.read?, noDistinct, readCount_name _ _ _ _ (by simp)]
      · simp [readFrequencies, counted, column, Answer.beginning]
      · intro later same
        exact n.token_ne_sign .star (List.cons.inj same).1

theorem readPick_first {n : Name} (readable : n.IsColumn) (order : FrequencyOrder) :
    readPick n (Answer.frequencies n (.first order)).suffix = some (.first order) := by
  have group (tokens : List Token) : expectWord "GROUP" (.word "GROUP" :: tokens) = some tokens := rfl
  have readsBy (tokens : List Token) : expectWord "BY" (.word "BY" :: tokens) = some tokens := rfl
  have words : isKeyword "ORDER" "ORDER" = true ∧ isKeyword "BY" "BY" = true ∧ isKeyword "LIMIT" "LIMIT" = true := by
    decide
  have readsOrder : FrequencyOrder.read? order.keyword = some order := by cases order <;> decide
  rw [Name.IsColumn] at readable
  simp [Answer.suffix, readPick, group, readsBy, readable, words, readsOrder]

theorem readPick_exactly {n : Name} (readable : n.IsColumn) (count : Nat) :
    readPick n (Answer.frequencies n (.exactly count)).suffix = some (.exactly count) := by
  have group (tokens : List Token) : expectWord "GROUP" (.word "GROUP" :: tokens) = some tokens := rfl
  have readsBy (tokens : List Token) : expectWord "BY" (.word "BY" :: tokens) = some tokens := rfl
  have words : isKeyword "HAVING" "HAVING" = true ∧ isKeyword "COUNT" "COUNT" = true ∧ isKeyword "ORDER" "ORDER" = true
      ∧ isKeyword "BY" "BY" = true := by
    decide
  rw [Name.IsColumn] at readable
  simp [Answer.suffix, readPick, countRows, call, group, readsBy, readable, words]

theorem Subject.answer?_suffix {a : Answer} (readable : ∀ x ∈ a.operands, x.IsReadable) :
    a.beginning.answer? a.suffix = some a := by
  cases a with
  | rows names window => cases window <;> rfl
  | distinct | rowCount | aggregate => rfl
  | frequencies n pick =>
      have column : n.IsColumn := readable (.column n) List.mem_cons_self
      cases pick with
      | first order => simp [Answer.beginning, Subject.answer?, readPick_first column order]
      | exactly count => simp [Answer.beginning, Subject.answer?, readPick_exactly column count]

theorem Answer.ends_suffix (a : Answer) :
    Breaks a.suffix ∧ expectWord "AND" a.suffix = none ∧ expectWord "WHERE" a.suffix = none := by
  have nothing : Breaks [] := by simp [Breaks]
  cases a with
  | rows names window =>
      cases window with
      | none => exact ⟨nothing, rfl, rfl⟩
      | some w => exact ⟨breaks_word _ _, rfl, rfl⟩
  | distinct | rowCount | aggregate => exact ⟨nothing, rfl, rfl⟩
  | frequencies n pick => cases pick <;> exact ⟨breaks_word _ _, rfl, rfl⟩

/-! ## Queries -/

theorem Query.read?_tokens {q : Query} (readable : q.IsReadable) : Query.read? q.tokens = some q := by
  obtain ⟨breaks, noAnd, noWhere⟩ := q.answer.ends_suffix
  have restricted := @readRestriction_restriction _ Condition.read? Condition.tokens q.conditions
    (fun c member _ breaks => Condition.read?_tokens (readable.conditions c member) breaks)
    (fun c _ => c.tokens_ne_nil) _ breaks noAnd noWhere
  have goesOn (tokens : List Token) : expectWord "SELECT" (.word "SELECT" :: tokens) = some tokens := rfl
  simp [Query.read?, Query.tokens, goesOn, Subject.read?_subject readable.answer, readTable_token readable.table,
    restricted, Subject.answer?_suffix readable.answer]

/-- A text is read as the query that it was made of. -/
theorem Query.ofText?_text {q : Query} (plain : ∀ t ∈ q.tokens, t.IsPlain) (nulFree : ∀ t ∈ q.tokens, t.IsNulFree)
    (readable : q.IsReadable) : Query.ofText? q.text = some q := by
  rw [Query.ofText?, Query.text, String.toList_ofList, lex_spell plain nulFree]
  exact Query.read?_tokens readable

end Datasheet.Sql
