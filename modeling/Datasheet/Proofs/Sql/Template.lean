import Datasheet.Proofs.Sql.Building

/-! # Templates of queries

A filter's value has one place in the tokens of a query, or two if the query restricts an aggregate too. The
other tokens are the same for all values. A template is what is left of the tokens when the values are taken
out of their places; filled with the values of a builder's filters, it is the builder's query again.
-/

namespace Datasheet.Sql

open Text

/-- A place in a row of tokens. -/
inductive Slot where
  | fixed (t : Token)
  /-- The place of a value. -/
  | hole
  deriving DecidableEq, Repr

abbrev Template := List Slot

namespace Template

/-- Puts values into the places for them, in order; none if there are more or fewer values than places. -/
def fill : Template → List String → Option (List Token)
  | [], [] => some []
  | .fixed t :: template, values => (fill template values).map (t :: ·)
  | .hole :: template, value :: values => (fill template values).map (.literal value :: ·)
  | [], _ :: _ => none
  | .hole :: _, [] => none

/-- A template without a place for a value. -/
def closed (tokens : List Token) : Template := tokens.map .fixed

theorem fill_closed_append (front : List Token) (template : Template) (values : List String) :
    fill (closed front ++ template) values = (fill template values).map (front ++ ·) := by
  induction front with
  | nil => simp [closed]
  | cons t front ih =>
      have known : fill (closed front ++ template) values = (fill template values).map (front ++ ·) := ih
      rw [closed, List.map_cons, List.cons_append, fill, ← closed, known, Option.map_map]
      rfl

theorem fill_closed (tokens : List Token) : fill (closed tokens) [] = some tokens := by
  have known := fill_closed_append tokens [] []
  simpa [fill] using known

theorem fill_append {first second : Template} {values more : List String} {tokens others : List Token}
    (filled : fill first values = some tokens) (filled' : fill second more = some others) :
    fill (first ++ second) (values ++ more) = some (tokens ++ others) := by
  induction first generalizing values tokens with
  | nil =>
      cases values with
      | nil =>
          obtain rfl := Option.some.inj filled
          exact filled'
      | cons value values => exact absurd filled (by simp [fill])
  | cons slot first ih =>
      cases slot with
      | fixed t =>
          obtain ⟨rest, known, rfl⟩ := Option.map_eq_some_iff.1 filled
          rw [List.cons_append, fill, ih known]
          rfl
      | hole =>
          cases values with
          | nil => exact absurd filled (by simp [fill])
          | cons value values =>
              obtain ⟨rest, known, rfl⟩ := Option.map_eq_some_iff.1 filled
              rw [List.cons_append, List.cons_append, fill, ih known]
              rfl

theorem mem_of_fill {template : Template} {values : List String} {tokens : List Token}
    (filled : fill template values = some tokens) {value : String} (member : value ∈ values) :
    .literal value ∈ tokens := by
  induction template generalizing values tokens with
  | nil =>
      cases values with
      | nil => exact absurd member List.not_mem_nil
      | cons other values => exact absurd filled (by simp [fill])
  | cons slot template ih =>
      cases slot with
      | fixed t =>
          obtain ⟨rest, known, rfl⟩ := Option.map_eq_some_iff.1 filled
          exact List.mem_cons_of_mem _ (ih known member)
      | hole =>
          cases values with
          | nil => exact absurd member List.not_mem_nil
          | cons other values =>
              obtain ⟨rest, known, rfl⟩ := Option.map_eq_some_iff.1 filled
              rcases List.mem_cons.1 member with rfl | member
              · exact List.mem_cons_self
              · exact List.mem_cons_of_mem _ (ih known member)

/-- Templates are filled one by one with the values in order. -/
inductive FillsAll : List Template → List String → List (List Token) → Prop where
  | nil : FillsAll [] [] []
  | cons {template : Template} {values : List String} {tokens : List Token} {templates : List Template}
      {more : List String} {rows : List (List Token)} (first : fill template values = some tokens)
      (rest : FillsAll templates more rows) : FillsAll (template :: templates) (values ++ more) (tokens :: rows)

namespace FillsAll

theorem append {templates others : List Template} {values more : List String} {rows rest : List (List Token)}
    (filled : FillsAll templates values rows) (filled' : FillsAll others more rest) :
    FillsAll (templates ++ others) (values ++ more) (rows ++ rest) := by
  induction filled with
  | nil => exact filled'
  | cons first _ ih =>
      rw [List.append_assoc]
      exact .cons first ih

theorem single {template : Template} {values : List String} {tokens : List Token}
    (filled : fill template values = some tokens) : FillsAll [template] values [tokens] := by
  have known := FillsAll.cons filled .nil
  rwa [List.append_nil] at known

theorem closed (rows : List (List Token)) : FillsAll (rows.map Template.closed) [] rows := by
  induction rows with
  | nil => exact .nil
  | cons row rows ih => exact .cons (fill_closed row) ih

theorem join (separator : Token) {templates : List Template} {values : List String} {rows : List (List Token)}
    (filled : FillsAll templates values rows) :
    fill (joinWith [.fixed separator] templates) values = some (joinWith [separator] rows) := by
  induction filled with
  | nil => rfl
  | cons first rest ih =>
      cases rest with
      | nil => simpa [joinWith] using first
      | cons second rest =>
          have between := fill_append (fill_append first (fill_closed [separator])) ih
          rw [List.append_nil] at between
          exact between

end FillsAll

/-- The template of the part that restricts the rows. -/
def restriction : List Template → Template
  | [] => []
  | parts => .fixed (.word "WHERE") :: joinWith [.fixed (.word "AND")] parts

theorem fill_restriction {templates : List Template} {values : List String} {rows : List (List Token)}
    (filled : FillsAll templates values rows) :
    fill (restriction templates) values = some (Sql.restriction rows) := by
  cases filled with
  | nil => rfl
  | cons first rest =>
      have known := (FillsAll.cons first rest).join (.word "AND")
      rw [restriction, fill, known]
      · rfl
      · exact List.cons_ne_nil _ _

end Template

/-! ## Tests -/

/-- The tokens of an expression before its operand. -/
def Scalar.before : Scalar → List Token
  | plain _ => []
  | upper _ => [.word "UPPER", .sign .opening]
  | trimmed _ => [.word "trim", .sign .opening]
  | day _ => [.word "date", .sign .opening]
  | decimal _ => [.word "CAST", .sign .opening]

/-- The tokens of an expression after its operand. -/
def Scalar.after : Scalar → List Token
  | plain _ => []
  | upper _ | trimmed _ | day _ => [.sign .closing]
  | decimal _ => .word "as" :: (decimalType ++ [.sign .closing])

theorem Scalar.tokens_eq (s : Scalar) : s.tokens = s.before ++ s.operand.token :: s.after := by
  cases s <;> rfl

/-- An expression with its text left open. -/
def Scalar.template (s : Scalar) : Template := Template.closed s.before ++ .hole :: Template.closed s.after

theorem Scalar.fill_template {s : Scalar} {value : String} (text : s.operand = .text value) :
    s.template.fill [value] = some s.tokens := by
  rw [Scalar.template, Template.fill_closed_append, Template.fill, Template.fill_closed, Scalar.tokens_eq, text]
  rfl

/-- A test with the text on its right side left open. -/
def Test.template : Test → Template
  | compare left comparison right => Template.closed (left.tokens ++ [.sign comparison.sign]) ++ right.template
  | like subject pattern =>
      Template.closed (subject.tokens ++ [.word "LIKE"])
        ++ (pattern.template ++ Template.closed [.word "ESCAPE", .literal "\\"])
  | glob subject negated pattern => Template.closed (glob subject negated pattern).tokens

namespace QueryBuilder

theorem fill_decisive (b : QueryBuilder) (f : Filter) :
    (b.decisive f).template.fill [literalOf f] = some (b.decisive f).tokens := by
  have compared (left : Scalar) (comparison : Comparison) {right : Scalar} {value : String}
      (text : right.operand = .text value) :
      (Test.compare left comparison right).template.fill [value] = some (Test.compare left comparison right).tokens := by
    rw [Test.template, Template.fill_closed_append, Scalar.fill_template text]
    simp [Test.tokens]
  have matched (subject : Scalar) {pattern : Scalar} {value : String} (text : pattern.operand = .text value) :
      (Test.like subject pattern).template.fill [value] = some (Test.like subject pattern).tokens := by
    have inside := Template.fill_append (Scalar.fill_template text) (Template.fill_closed [.word "ESCAPE", .literal "\\"])
    rw [List.append_nil] at inside
    rw [Test.template, Template.fill_closed_append, inside]
    simp [Test.tokens]
  rw [decisive, literalOf]
  cases f.operator with
  | numeric operator => exact compared _ _ rfl
  | date operator => exact compared _ _ rfl
  | text operator =>
      cases operator with
      | equals | different => exact compared _ _ (b.operand_folded _)
      | contains | startsWith | endsWith => exact matched _ (b.operand_folded _)

/-- The form of a filter's last test does not depend on the filter's value. -/
theorem template_decisive_congr (b : QueryBuilder) {f g : Filter} (field : f.field = g.field)
    (operator : f.operator = g.operator) : (b.decisive f).template = (b.decisive g).template := by
  have opened (x y : Operand) : (b.folded x).template = (b.folded y).template := by
    rw [folded, folded]
    split <;> rfl
  rw [decisive, decisive, field, operator]
  cases g.operator with
  | numeric operator => rfl
  | date operator => rfl
  | text operator =>
      cases operator with
      | equals | different => simp only [textTest, Test.template, opened _ (.text g.value)]
      | contains | startsWith | endsWith => simp only [textTest, Test.template, opened _ (.text g.value)]

/-- The templates of a filter's tests. -/
def templates (b : QueryBuilder) (f : Filter) : List Template :=
  (b.guards f).map (Template.closed ·.tokens) ++ [(b.decisive f).template]

theorem templates_congr (b : QueryBuilder) {f g : Filter} (field : f.field = g.field)
    (operator : f.operator = g.operator) : b.templates f = b.templates g := by
  rw [templates, templates, b.template_decisive_congr field operator, guards, guards, field, operator]

theorem fillsAll_tests (b : QueryBuilder) (filters : List Filter) :
    Template.FillsAll (filters.flatMap b.templates) (filters.map literalOf)
      ((filters.flatMap b.tests).map Test.tokens) := by
  induction filters with
  | nil => exact .nil
  | cons f filters ih =>
      have guarded := Template.FillsAll.closed ((b.guards f).map Test.tokens)
      have last := Template.FillsAll.single (b.fill_decisive f)
      have whole := (guarded.append last).append ih
      rw [List.flatMap_cons, List.flatMap_cons, tests_eq, templates, List.map_append, List.map_append]
      rw [List.map_map] at whole
      exact whole

end QueryBuilder

/-! ## Queries -/

/-- The values that the query of an outline holds: those of the filters, twice if an aggregate is restricted too. -/
def Outline.literals (o : Outline) (values : List String) : List String :=
  match o.extreme with
  | none => values
  | some _ => values ++ values

/-- The template of an aggregate that a row's value is compared with. -/
def Extreme.template (value : Scalar) (function : Aggregate) (table : Name) (tests : List Template) : Template :=
  Template.closed (value.tokens ++ .sign .equal :: .sign .opening :: .word "SELECT"
      :: (call function.name value.tokens ++ [.word "FROM", table.token]))
    ++ (Template.restriction tests ++ Template.closed [.sign .closing])

/-- The template of an outline's query over a table, made of the templates of the filters' tests. -/
def Outline.template (o : Outline) (table : Name) (filters : List Template) : Template :=
  let tests := o.tests.map (Template.closed ·.tokens)
  let conditions :=
    match o.extreme with
    | none => tests ++ filters
    | some (function, value) => tests ++ Extreme.template value function table (tests ++ filters) :: filters
  Template.closed (.word "SELECT" :: (o.answer.subject ++ [.word "FROM", table.token]))
    ++ (Template.restriction conditions ++ Template.closed o.answer.suffix)

theorem Extreme.fill_template (value : Scalar) (function : Aggregate) (table : Name) {tests : List Test}
    {templates : List Template} {values : List String}
    (filled : Template.FillsAll templates values (tests.map Test.tokens)) :
    (Extreme.template value function table templates).fill values
      = some (Condition.isExtreme value ⟨function, value, table, tests⟩).tokens := by
  have inside := Template.fill_append (Template.fill_restriction filled) (Template.fill_closed [.sign .closing])
  rw [List.append_nil] at inside
  rw [Extreme.template, Template.fill_closed_append, inside]
  simp [Condition.tokens, Extreme.tokens]

theorem Query.fill_template {answer : Answer} {table : Name} {conditions : List Condition}
    {templates : List Template} {values : List String}
    (filled : Template.FillsAll templates values (conditions.map Condition.tokens)) :
    Template.fill (Template.closed (.word "SELECT" :: (answer.subject ++ [.word "FROM", table.token]))
      ++ (Template.restriction templates ++ Template.closed answer.suffix)) values
      = some (Query.tokens ⟨answer, table, conditions⟩) := by
  have inside := Template.fill_append (Template.fill_restriction filled) (Template.fill_closed answer.suffix)
  rw [List.append_nil] at inside
  rw [Template.fill_closed_append, inside]
  simp [Query.tokens]

theorem Outline.fill_template (o : Outline) (table : Name) {filters : List Test} {templates : List Template}
    {values : List String} (filled : Template.FillsAll templates values (filters.map Test.tokens)) :
    (o.template table templates).fill (o.literals values) = some (o.query table filters).tokens := by
  obtain ⟨answer, tests, extreme⟩ := o
  have leading := Template.FillsAll.closed (tests.map Test.tokens)
  rw [List.map_map] at leading
  cases extreme with
  | none =>
      have whole := leading.append filled
      refine Query.fill_template ?_
      simpa [Outline.literals, Function.comp_def, Condition.tokens] using whole
  | some extreme =>
      obtain ⟨function, value⟩ := extreme
      have inner := leading.append filled
      rw [← List.map_append] at inner
      have whole := leading.append ((Template.FillsAll.single (Extreme.fill_template value function table inner)).append filled)
      refine Query.fill_template ?_
      simpa [Outline.literals, Function.comp_def, Condition.tokens] using whole

namespace QueryBuilder

/-- The literals of a request's query that come from filters, in the order of their places. -/
def literals (b : QueryBuilder) : Request → List String
  | .extremeRows _ _ => b.filters.map literalOf ++ b.filters.map literalOf
  | _ => b.filters.map literalOf

theorem Outlines.literals {b : QueryBuilder} {request : Request} {o : Outline} (outlines : b.Outlines request o) :
    o.literals (b.filters.map literalOf) = b.literals request := by
  cases outlines <;> rfl

theorem literal_mem_tokens {b : QueryBuilder} {request : Request} {q : Query} (made : b.query request = .ok q)
    {f : Filter} (filter : f ∈ b.filters) : .literal (literalOf f) ∈ q.tokens := by
  obtain ⟨o, outlined, _, rfl⟩ := query_eq_ok.1 made
  have filled := o.fill_template (Name.ofText b.table) (b.fillsAll_tests b.filters)
  have member : literalOf f ∈ b.filters.map literalOf := List.mem_map.2 ⟨f, filter, rfl⟩
  refine Template.mem_of_fill filled ?_
  rw [Outline.literals]
  split
  · exact member
  · exact List.mem_append_left _ member

/-- The other builder differs from the first one at most in the values of its filters. -/
structure SameButValues (b c : QueryBuilder) : Prop where
  settings : c = { b with filters := c.filters }
  filters : c.filters.map (fun f => (f.field, f.operator)) = b.filters.map fun f => (f.field, f.operator)

theorem SameButValues.outline {b c : QueryBuilder} (same : b.SameButValues c) (request : Request) :
    c.outline request = b.outline request := by
  rw [same.settings]
  cases request <;> rfl

theorem SameButValues.templates {b c : QueryBuilder} (same : b.SameButValues c) :
    c.filters.flatMap c.templates = b.filters.flatMap b.templates := by
  have settings : c.templates = b.templates := by
    rw [same.settings]
    rfl
  have filters := same.filters
  rw [settings]
  generalize c.filters = fs at filters
  generalize b.filters = gs at filters
  induction fs generalizing gs with
  | nil =>
      obtain rfl := List.map_eq_nil_iff.1 filters.symm
      rfl
  | cons f fs ih =>
      cases gs with
      | nil => exact absurd filters (by simp)
      | cons g gs =>
          obtain ⟨first, rest⟩ := List.cons.inj filters
          obtain ⟨field, operator⟩ := Prod.mk.inj first
          rw [List.flatMap_cons, List.flatMap_cons, ih gs rest, b.templates_congr field operator]

end QueryBuilder

/-- The engine reads the text as the tokens of the template, filled with the values, and all names in quotes are
    among the given ones. -/
def Template.Describes (template : Template) (values names : List String) (text : String) : Prop :=
  ∃ tokens, lex text.toList = some tokens ∧ template.fill values = some tokens
    ∧ ∀ name, .quoted name ∈ tokens → name ∈ names

theorem Template.describes_spell {template : Template} {values names : List String} {tokens : List Token}
    (filled : template.fill values = some tokens) (plain : ∀ t ∈ tokens, t.IsPlain)
    (nulFree : ∀ t ∈ tokens, t.IsNulFree) (quoted : ∀ t ∈ tokens, ∀ name, t = .quoted name → name ∈ names) :
    template.Describes values names (String.ofList (spell tokens)) := by
  refine ⟨tokens, ?_, filled, fun name member => quoted _ member name rfl⟩
  rw [String.toList_ofList]
  exact lex_spell plain nulFree

namespace QueryBuilder

theorem describes_text {b c : QueryBuilder} {request : Request} {o : Outline} (outlined : b.outline request = .ok o)
    (same : b.SameButValues c) (names : ∀ name ∈ c.names request, NulFree name)
    (values : ∀ f ∈ c.filters, NulFree f.value) {text : String} (made : c.text request = .ok text) :
    (o.template (Name.ofText b.table) (b.filters.flatMap b.templates)).Describes (c.literals request)
      (c.names request) text := by
  rw [QueryBuilder.text] at made
  cases built : c.query request with
  | error e => exact absurd made (by simp [built, Except.map])
  | ok q =>
      obtain rfl : q.text = text := by simpa [built, Except.map] using made
      obtain ⟨operands, label⟩ := query_isOf built
      have clean : ∀ value ∈ c.filters.map literalOf, NulFree value := by
        simpa using fun f member => nulFree_literalOf (values f member)
      obtain ⟨o', outlined', _, rfl⟩ := query_eq_ok.1 built
      obtain rfl : o' = o := Except.ok.inj (outlined'.symm.trans ((same.outline request).trans outlined))
      have filled := o'.fill_template (Name.ofText c.table) (c.fillsAll_tests c.filters)
      have table : c.table = b.table := by rw [same.settings]
      rw [(outline_eq_ok.1 outlined').literals, same.templates, table] at filled
      rw [table] at operands label
      rw [table]
      exact Template.describes_spell filled
        (Query.forall_tokens Token.isFormal_isPlain label fun x member => (operands x member).isPlain)
        (Query.forall_tokens Token.isFormal_isNulFree label fun x member => (operands x member).isNulFree names clean)
        (Query.forall_tokens (Token.isFormal_quoted _) label fun x member _ => (operands x member).mem_of_quoted)

theorem describes_whereText {b c : QueryBuilder} (same : b.SameButValues c)
    (names : ∀ f ∈ c.filters, NulFree f.field) (values : ∀ f ∈ c.filters, NulFree f.value) {text : String}
    (made : c.whereText = .ok text) :
    (Template.restriction (b.filters.flatMap b.templates)).Describes (c.filters.map literalOf)
      (c.filters.map (·.field)) text := by
  rw [whereText] at made
  obtain ⟨groups, tested, made⟩ := bind_eq_ok.1 made
  obtain ⟨_, rfl⟩ := filterTests_eq_ok.1 tested
  have filled := Template.fill_restriction (c.fillsAll_tests c.filters)
  rw [same.templates] at filled
  have operands := fun x => @filters_isOf c x
  have clean : ∀ name ∈ c.filters.map (·.field), NulFree name := by simpa using names
  have clean' : ∀ value ∈ c.filters.map literalOf, NulFree value := by
    simpa using fun f member => nulFree_literalOf (values f member)
  have described := Template.describes_spell filled
    (forall_restriction Token.isFormal_isPlain (forall_tests Token.isFormal_isPlain fun x member =>
      (operands x member).isPlain))
    (forall_restriction Token.isFormal_isNulFree (forall_tests Token.isFormal_isNulFree fun x member =>
      (operands x member).isNulFree clean clean'))
    (forall_restriction (Token.isFormal_quoted _) (forall_tests (Token.isFormal_quoted _) fun x member _ =>
      (operands x member).mem_of_quoted))
  split at made
  next none =>
      obtain rfl := Except.ok.inj made
      have empty : c.filters = [] := by simpa using none
      simpa [empty, spell, Sql.restriction] using described
  next =>
      obtain rfl := Except.ok.inj made
      rw [← List.flatMap_def]
      obtain ⟨tokens, read, known⟩ := described
      refine ⟨tokens, ?_, known⟩
      rw [String.toList_ofList] at read ⊢
      rw [lex_gap, read]

/-- The values of filters cannot change the structure of a query: for all values, the engine reads the tokens of
    one template, with the values in their places. The same holds of the part that restricts the rows. -/
theorem values_keep_structure (b : QueryBuilder) :
    (∀ request, ∃ template : Template, ∀ c, b.SameButValues c → (∀ name ∈ c.names request, NulFree name) →
      (∀ f ∈ c.filters, NulFree f.value) → ∀ text, c.text request = .ok text →
        template.Describes (c.literals request) (c.names request) text)
    ∧ ∃ template : Template, ∀ c, b.SameButValues c → (∀ f ∈ c.filters, NulFree f.field) →
      (∀ f ∈ c.filters, NulFree f.value) → ∀ text, c.whereText = .ok text →
        template.Describes (c.filters.map literalOf) (c.filters.map (·.field)) text := by
  constructor
  · intro request
    -- The outline does not depend on the values, so one outline serves all of them.
    cases outlined : b.outline request with
    | error e =>
        refine ⟨[], fun c same _ _ text made => ?_⟩
        have refused : c.outline request = .error e := (same.outline request).trans outlined
        rw [QueryBuilder.text, query, refused] at made
        exact absurd made (by simp [bind, Except.bind, Except.map])
    | ok o => exact ⟨_, fun c same names values text => describes_text outlined same names values⟩
  · exact ⟨_, fun c same names values text => describes_whereText same names values⟩

/-- A builder with one filter, whose value is given. -/
def customers (value : String) : QueryBuilder where
  table := "customers"
  fields := []
  filters := [⟨"full name", .text .equals, value⟩]

/-- A value that holds the signs of SQL stands in the same place of the same tokens as one that does not. -/
theorem values_keep_structure_customers :
    ∃ (template : Template) (harmless hostile : String),
      (customers "Ann").text .all = .ok harmless ∧ (customers "' OR ''='").text .all = .ok hostile
        ∧ template.Describes ["Ann"] ["customers", "full name"] harmless
        ∧ template.Describes ["' OR ''='"] ["customers", "full name"] hostile := by
  obtain ⟨requests, _⟩ := values_keep_structure (customers "Ann")
  obtain ⟨template, describes⟩ := requests .all
  have asked (value : String) : ∃ text, (customers value).text .all = .ok text := ⟨_, rfl⟩
  obtain ⟨harmless, made⟩ := asked "Ann"
  obtain ⟨hostile, made'⟩ := asked "' OR ''='"
  refine ⟨template, harmless, hostile, made, made', ?_, ?_⟩
  · exact describes (customers "Ann") ⟨rfl, rfl⟩ (by decide) (by decide) harmless made
  · exact describes (customers "' OR ''='") ⟨rfl, rfl⟩ (by decide) (by decide) hostile made'

end QueryBuilder

end Datasheet.Sql
