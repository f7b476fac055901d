import Datasheet.Proofs.Sql.Reading

/-! # Queries that are not read

The engine reads no query with a name that it takes for a keyword. Whatever the keyword, each part of a query is only
read if the names of the part are read back, so a query that is read at all is read as itself.
-/

namespace Datasheet.Sql

/-! ## Expressions -/

theorem Name.isColumn_of_read {n m : Name} (read : Name.ofExpression? n.token = some m) : n.IsColumn := by
  obtain ⟨text, quoted⟩ := n
  cases quoted with
  | true => rfl
  | false =>
      rw [IsColumn, read]
      simp only [token, Bool.false_eq_true, if_false, ofExpression?, ofToken?] at read
      grind

theorem Name.isTable_of_read {n m : Name} (read : Name.ofToken? n.token = some m) : n.IsTable := by
  obtain ⟨text, quoted⟩ := n
  cases quoted with
  | true => rfl
  | false =>
      rw [IsTable, read]
      simp only [token, Bool.false_eq_true, if_false, ofToken?] at read
      grind

theorem Name.token_ne_literal (n : Name) (value : String) : n.token ≠ .literal value := by
  rw [Name.token]
  split <;> simp

theorem Operand.isReadable_of_read {x : Operand} {rest : List Token} {r : Operand × List Token}
    (read : Operand.read? (x.token :: rest) = some r) : x.IsReadable := by
  cases x with
  | text value => trivial
  | column n =>
      rw [Operand.token, Operand.read?] at read
      · obtain ⟨m, name, _⟩ := Option.map_eq_some_iff.1 read
        exact Name.isColumn_of_read name
      · exact n.token_ne_literal

theorem Scalar.isReadable_of_read {s : Scalar} {rest : List Token} (breaks : Breaks rest) {r : Scalar × List Token}
    (read : Scalar.read? (s.tokens ++ rest) = some r) : s.operand.IsReadable := by
  cases s with
  | plain x =>
      rw [Scalar.tokens, List.singleton_append, Scalar.read?] at read
      · obtain ⟨_, inside, _⟩ := Option.map_eq_some_iff.1 read
        exact Operand.isReadable_of_read inside
      · rintro function later same
        obtain ⟨-, rfl⟩ := List.cons.inj same
        exact breaks rfl
  | upper x | trimmed x | day x | decimal x =>
      obtain ⟨_, inside, _⟩ := Option.bind_eq_some_iff.1 read
      exact Operand.isReadable_of_read inside

theorem Scalar.eq_of_read {s : Scalar} {rest : List Token} (breaks : Breaks rest) {r : Scalar × List Token}
    (read : Scalar.read? (s.tokens ++ rest) = some r) : s.operand.IsReadable ∧ r = (s, rest) := by
  have readable := Scalar.isReadable_of_read breaks read
  rw [Scalar.read?_tokens readable breaks] at read
  exact ⟨readable, (Option.some.inj read).symm⟩

/-! ## Tests -/

theorem Test.exists_read_of_readAfter {subject : Scalar} {t : Token} {rest : List Token}
    (noText : ∀ value, t ≠ .literal value) (noText' : ∀ value later, rest ≠ .literal value :: later)
    {r : Test × List Token} (read : Test.readAfter? subject (.word "LIKE" :: t :: rest) = some r) :
    ∃ p, Scalar.read? (t :: rest) = some p := by
  rw [Test.readAfter?] at read
  · obtain ⟨p, inside, _⟩ := Option.bind_eq_some_iff.1 read
    exact ⟨p, inside⟩
  · rintro second value later same
    exact noText' value later (List.cons.inj same).2
  · rintro value later same
    exact noText value (List.cons.inj same).1

theorem Test.isReadable_of_readAfter {t : Test} (left : t.left.operand.IsReadable) {rest : List Token}
    (breaks : Breaks rest) {r : Test × List Token} (read : Test.readAfter? t.left (t.tail ++ rest) = some r) :
    ∀ x ∈ t.operands, x.IsReadable := by
  cases t with
  | compare left comparison right =>
      rw [Test.tail, List.cons_append, Test.readAfter?, Comparison.ofSign?_sign] at read
      obtain ⟨_, _, read⟩ := Option.bind_eq_some_iff.1 read
      obtain ⟨_, inside, _⟩ := Option.bind_eq_some_iff.1 read
      simpa [Test.operands] using ⟨left, Scalar.isReadable_of_read breaks inside⟩
  | like subject pattern =>
      have ends : (like subject pattern).tail ++ rest
          = .word "LIKE" :: (pattern.tokens ++ .word "ESCAPE" :: .literal "\\" :: rest) := by simp [Test.tail]
      rw [ends] at read
      have readable : pattern.operand.IsReadable := by
        cases pattern with
        | plain x =>
            cases x with
            | text value => trivial
            | column n =>
                obtain ⟨_, inside⟩ := Test.exists_read_of_readAfter n.token_ne_literal (by simp) read
                exact Scalar.isReadable_of_read (s := .plain (.column n)) (breaks_word _ _) inside
        | upper x | trimmed x | day x | decimal x =>
            obtain ⟨_, inside⟩ := Test.exists_read_of_readAfter (by simp) (by simp) read
            exact Operand.isReadable_of_read (Option.bind_eq_some_iff.1 inside).choose_spec.1
      simpa [Test.operands] using ⟨left, readable, trivial⟩
  | glob subject negated pattern => simpa [Test.operands] using ⟨left, trivial⟩

theorem Test.isReadable_of_read {t : Test} {rest : List Token} (breaks : Breaks rest) {r : Test × List Token}
    (read : Test.read? (t.tokens ++ rest) = some r) : ∀ x ∈ t.operands, x.IsReadable := by
  rw [Test.read?, Test.tokens_eq, List.append_assoc] at read
  obtain ⟨_, first, after⟩ := Option.bind_eq_some_iff.1 read
  obtain ⟨left, rfl⟩ := Scalar.eq_of_read (t.breaks_tail rest) first
  exact Test.isReadable_of_readAfter left breaks after

/-! ## Restrictions -/

section

variable {α : Type} {read : List Token → Option (α × List Token)} {write : α → List Token} {P : α → Prop}
  (reads : ∀ c rest, Breaks rest → P c → read (write c ++ rest) = some (c, rest))
  (only : ∀ c rest r, Breaks rest → read (write c ++ rest) = some r → P c)

include reads only

theorem forall_of_readConjunctionWith {parts : List α} (nonempty : parts ≠ []) {rest : List Token} (breaks : Breaks rest)
    {fuel : Nat} {r : List α × List Token}
    (done : readConjunctionWith read fuel (conjunction (parts.map write) ++ rest) = some r) : ∀ c ∈ parts, P c := by
  induction parts generalizing fuel r with
  | nil => exact absurd rfl nonempty
  | cons c parts ih =>
      cases fuel with
      | zero => exact absurd done (by simp [readConjunctionWith])
      | succ fuel =>
          obtain ⟨p, first, after⟩ := Option.bind_eq_some_iff.1 done
          cases parts with
          | nil => exact List.forall_mem_singleton.2 (only c rest p breaks first)
          | cons d parts =>
              have goesOn := breaks_word "AND" (conjunction ((d :: parts).map write) ++ rest)
              have joined : conjunction ((c :: d :: parts).map write) ++ rest
                  = write c ++ .word "AND" :: (conjunction ((d :: parts).map write) ++ rest) := by
                simp [conjunction, Text.joinWith]
              rw [joined] at first
              have known := only c _ p goesOn first
              rw [reads c _ goesOn known] at first
              obtain rfl := Option.some.inj first
              obtain ⟨_, later, _⟩ := Option.bind_eq_some_iff.1 after
              exact List.forall_mem_cons.2 ⟨known, ih (List.cons_ne_nil _ _) later⟩

theorem forall_of_readRestriction {parts : List α} {rest : List Token} (breaks : Breaks rest) {r : List α × List Token}
    (done : readRestriction read (restriction (parts.map write) ++ rest) = some r) : ∀ c ∈ parts, P c := by
  cases parts with
  | nil => exact List.forall_mem_nil _
  | cons c parts => exact forall_of_readConjunctionWith reads only (List.cons_ne_nil c parts) breaks done

end

theorem eq_of_readTable {n : Name} {rest : List Token} {r : Name × List Token}
    (read : readTable (.word "FROM" :: n.token :: rest) = some r) : n.IsTable ∧ r = (n, rest) := by
  obtain ⟨m, name, _⟩ := Option.map_eq_some_iff.1 (read : (Name.ofToken? n.token).map (·, rest) = some r)
  have table := Name.isTable_of_read name
  rw [readTable_token table] at read
  exact ⟨table, (Option.some.inj read).symm⟩

theorem isReadable_of_readAggregateCall {function : Aggregate} {value : Scalar} {rest : List Token}
    {r : (Aggregate × Scalar) × List Token}
    (read : readAggregateCall (call function.name value.tokens ++ rest) = some r) : value.operand.IsReadable := by
  have tokens : call function.name value.tokens ++ rest
      = .word function.name :: .sign .opening :: (value.tokens ++ .sign .closing :: rest) := by simp [call]
  rw [tokens] at read
  obtain ⟨_, _, after⟩ := Option.bind_eq_some_iff.1 read
  obtain ⟨_, inside, _⟩ := Option.bind_eq_some_iff.1 after
  exact Scalar.isReadable_of_read (breaks_sign (by decide) rest) inside

/-! ## Conditions -/

theorem Extreme.isReadable_of_read {e : Extreme} {rest : List Token} {r : Extreme × List Token}
    (read : Extreme.read? (e.tokens ++ .sign .closing :: rest) = some r) :
    e.value.operand.IsReadable ∧ e.table.IsTable ∧ ∀ t ∈ e.tests, ∀ x ∈ t.operands, x.IsReadable := by
  have tokens : e.tokens ++ .sign .closing :: rest = .word "SELECT" :: (call e.function.name e.value.tokens
      ++ .word "FROM" :: e.table.token :: (restriction (e.tests.map Test.tokens) ++ .sign .closing :: rest)) := by
    simp [Extreme.tokens]
  rw [tokens] at read
  obtain ⟨_, called, read⟩ := Option.bind_eq_some_iff.1 read
  have value := isReadable_of_readAggregateCall called
  rw [readAggregateCall_call e.function value] at called
  obtain rfl := Option.some.inj called
  obtain ⟨_, named, read⟩ := Option.bind_eq_some_iff.1 read
  obtain ⟨table, rfl⟩ := eq_of_readTable named
  obtain ⟨_, restricted, _⟩ := Option.bind_eq_some_iff.1 read
  exact ⟨value, table, forall_of_readRestriction (fun t _ breaks known => Test.read?_tokens known breaks)
    (fun t _ _ breaks inside => Test.isReadable_of_read breaks inside) (breaks_sign (by decide) rest) restricted⟩

theorem Condition.isReadable_of_read {c : Condition} {rest : List Token} (breaks : Breaks rest)
    {r : Condition × List Token} (read : Condition.read? (c.tokens ++ rest) = some r) : c.IsReadable := by
  cases c with
  | test t =>
      rw [Condition.read?, Condition.tokens, Test.tokens_eq, List.append_assoc] at read
      obtain ⟨_, first, after⟩ := Option.bind_eq_some_iff.1 read
      obtain ⟨left, rfl⟩ := Scalar.eq_of_read (t.breaks_tail rest) first
      dsimp only at after
      split at after
      next later same => exact absurd same (t.tail_ne_extreme rest later)
      next =>
          obtain ⟨_, inside, _⟩ := Option.map_eq_some_iff.1 after
          exact Test.isReadable_of_readAfter left breaks inside
  | isExtreme value e =>
      have tokens : (isExtreme value e).tokens ++ rest
          = value.tokens ++ .sign .equal :: .sign .opening :: (e.tokens ++ .sign .closing :: rest) := by
        simp [Condition.tokens]
      have equal : Breaks (.sign .equal :: .sign .opening :: (e.tokens ++ .sign .closing :: rest)) :=
        breaks_sign (by decide) _
      rw [tokens] at read
      obtain ⟨_, first, after⟩ := Option.bind_eq_some_iff.1 read
      obtain ⟨left, rfl⟩ := Scalar.eq_of_read equal first
      obtain ⟨_, inside, _⟩ := Option.bind_eq_some_iff.1 after
      exact ⟨left, Extreme.isReadable_of_read inside⟩

/-! ## Answers -/

theorem Subject.noDistinct_of_read {n : Name} {u : Token} (noName : Name.ofExpression? u = none) {rest : List Token}
    {r : Subject × List Token} (read : Subject.read? (n.token :: u :: rest) = some r) (later : List Token) :
    expectWord "DISTINCT" (n.token :: later) = none := by
  have noStar : ∀ later, n.token :: u :: rest ≠ .sign .star :: later := by
    intro later same
    exact Name.token_ne_sign n .star (List.cons.inj same).1
  cases word : n.token with
  | quoted | literal | number | sign => rfl
  | word text =>
      rw [expectWord]
      split
      next distinct =>
          rw [word] at read noStar
          rw [Subject.read?, expectWord, if_pos distinct] at read
          · simp [noName] at read
          · exact noStar
      next => rfl

theorem isColumn_of_readNames {names : List Name} (nonempty : names ≠ []) {rest : List Token} {r : List Name × List Token}
    (read : readNames (columnTokens names ++ .word "FROM" :: rest) = some r) : ∀ n ∈ names, n.IsColumn := by
  induction names generalizing r with
  | nil => exact absurd rfl nonempty
  | cons n names ih =>
      cases names with
      | nil =>
          have tokens : columnTokens [n] ++ .word "FROM" :: rest = n.token :: .word "FROM" :: rest := rfl
          rw [tokens, readNames] at read
          · obtain ⟨_, first, _⟩ := Option.map_eq_some_iff.1 read
            exact List.forall_mem_singleton.2 (Name.isColumn_of_read first)
          · simp
      | cons m names =>
          have tokens : columnTokens (n :: m :: names) ++ .word "FROM" :: rest
              = n.token :: .sign .comma :: (columnTokens (m :: names) ++ .word "FROM" :: rest) := by
            simp [columnTokens, Text.joinWith]
          rw [tokens, readNames] at read
          obtain ⟨_, first, read⟩ := Option.bind_eq_some_iff.1 read
          obtain ⟨_, later, _⟩ := Option.bind_eq_some_iff.1 read
          exact List.forall_mem_cons.2 ⟨Name.isColumn_of_read first, ih (List.cons_ne_nil _ _) later⟩

/-- An aggregate of something that is not read may be taken for a list of columns, but then no table follows. -/
theorem Subject.isReadable_of_read_aggregate {function : Aggregate} {value : Scalar} {label : String} {rest : List Token}
    {r : Subject × List Token}
    (read : Subject.read? ((Answer.aggregate function value label).subject ++ .word "FROM" :: rest) = some r)
    (table : (readTable r.2).isSome) : value.operand.IsReadable := by
  have tokens : (Answer.aggregate function value label).subject ++ .word "FROM" :: rest
      = call function.name value.tokens ++ .word "as" :: .word label :: .word "FROM" :: rest := by
    simp [Answer.subject]
  rw [tokens, Subject.read?_call] at read
  -- Read as a list of columns, the call would leave its opening parenthesis where the table has to follow.
  rcases Option.or_eq_some_iff.1 read with labelled | ⟨_, listed⟩
  · obtain ⟨_, called, _⟩ := Option.bind_eq_some_iff.1 labelled
    exact isReadable_of_readAggregateCall called
  · rw [call, List.cons_append, List.cons_append, readNames] at listed
    · simp only [Option.map_map, Option.map_eq_some_iff, Function.comp_apply] at listed
      obtain ⟨_, _, rfl⟩ := listed
      simp [readTable, expectWord] at table
    · simp

theorem Subject.isReadable_of_read {a : Answer} {rest : List Token} {r : Subject × List Token}
    (read : Subject.read? (a.subject ++ .word "FROM" :: rest) = some r) (table : (readTable r.2).isSome) :
    ∀ x ∈ a.operands, x.IsReadable := by
  cases a with
  | rows names window =>
      cases names with
      | nil => exact List.forall_mem_nil _
      | cons n names =>
          obtain ⟨u, later, tokens, _, noName, _⟩ := columnTokens_shape n names rest
          have noDistinct := Subject.noDistinct_of_read noName (tokens ▸ read)
          rw [Answer.subject, Subject.read?_columns noDistinct] at read
          obtain ⟨_, inside, _⟩ := Option.map_eq_some_iff.1 read
          exact List.forall_mem_map.2 (isColumn_of_readNames (List.cons_ne_nil _ _) inside)
  | distinct n =>
      obtain ⟨_, name, _⟩ := Option.map_eq_some_iff.1
        (read : (Name.ofExpression? n.token).map (fun column => (Subject.distinct column, _)) = some r)
      exact List.forall_mem_singleton.2 (Name.isColumn_of_read name)
  | rowCount => exact List.forall_mem_nil _
  | aggregate function value label =>
      exact List.forall_mem_singleton.2 (Subject.isReadable_of_read_aggregate read table)
  | frequencies n pick =>
      have tokens : (Answer.frequencies n pick).subject ++ .word "FROM" :: rest
          = n.token :: .sign .comma :: (countRows ++ .word "as" :: .word "freq" :: .word "FROM" :: rest) := by
        simp [Answer.subject]
      rw [tokens] at read
      have noDistinct := Subject.noDistinct_of_read rfl read
      refine List.forall_mem_singleton.2 ?_
      cases name : Name.ofExpression? n.token with
      | some m => exact Name.isColumn_of_read name
      | none =>
          have noLabel : readLabelled (n.token :: .sign .comma
              :: (countRows ++ .word "as" :: .word "freq" :: .word "FROM" :: rest)) = none := by
            simp [readLabelled, readAggregateCall_name]
          rw [Subject.read?, noDistinct, readCount_name _ _ _ _ (by simp), noLabel] at read
          · simp [readFrequencies, readNames, name] at read
          · intro later same
            exact Name.token_ne_sign n .star (List.cons.inj same).1

/-! ## Queries -/

/-- A query is only read if all of its names are, and then as itself. -/
theorem Query.isReadable_of_read {q : Query} {r : Query} (read : Query.read? q.tokens = some r) : q.IsReadable := by
  obtain ⟨breaks, _, _⟩ := q.answer.ends_suffix
  rw [Query.read?, Query.tokens] at read
  obtain ⟨_, started, read⟩ := Option.bind_eq_some_iff.1 read
  have goesOn (tokens : List Token) : expectWord "SELECT" (.word "SELECT" :: tokens) = some tokens := rfl
  obtain rfl := Option.some.inj ((goesOn _).symm.trans started)
  obtain ⟨_, began, read⟩ := Option.bind_eq_some_iff.1 read
  obtain ⟨_, named, read⟩ := Option.bind_eq_some_iff.1 read
  have answer := Subject.isReadable_of_read began (Option.isSome_of_mem named)
  rw [Subject.read?_subject answer] at began
  obtain rfl := Option.some.inj began
  obtain ⟨table, rfl⟩ := eq_of_readTable named
  obtain ⟨_, restricted, _⟩ := Option.bind_eq_some_iff.1 read
  exact {
    answer := answer
    table := table
    conditions := forall_of_readRestriction (fun c _ breaks known => Condition.read?_tokens known breaks)
      (fun c _ _ breaks inside => Condition.isReadable_of_read breaks inside) breaks restricted }

end Datasheet.Sql
