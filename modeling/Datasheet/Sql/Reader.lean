import Datasheet.Sql.Keyword
import Datasheet.Sql.Lexer

/-! # Reading queries

Reads the tokens of a query back into the query. The reader accepts the queries of the library in any letter
case of their keywords, and refuses everything else, above all a name that the engine takes for a keyword.
-/

namespace Datasheet.Sql

def expectWord (keyword : String) : List Token → Option (List Token)
  | .word text :: rest => if isKeyword keyword text then some rest else none
  | _ => none

def expectSign (s : Sign) : List Token → Option (List Token)
  | .sign other :: rest => if other = s then some rest else none
  | _ => none

def Operand.read? : List Token → Option (Operand × List Token)
  | [] => none
  | .literal value :: rest => some (.text value, rest)
  | t :: rest => (Name.ofExpression? t).map fun name => (.column name, rest)

def readDecimalType : List Token → Option (List Token)
  | .word text :: .sign .opening :: .number 38 :: .sign .comma :: .number 4 :: .sign .closing :: rest =>
      if isKeyword "DECIMAL" text then some rest else none
  | _ => none

def Scalar.read? : List Token → Option (Scalar × List Token)
  | .word function :: .sign .opening :: rest => do
      let (x, rest) ← Operand.read? rest
      if isKeyword "CAST" function then
        let rest ← expectWord "AS" rest
        let rest ← readDecimalType rest
        let rest ← expectSign .closing rest
        some (.decimal x, rest)
      else
        let rest ← expectSign .closing rest
        if isKeyword "UPPER" function then some (.upper x, rest)
        else if isKeyword "TRIM" function then some (.trimmed x, rest)
        else if isKeyword "DATE" function then some (.day x, rest)
        else none
  | tokens => (Operand.read? tokens).map fun (x, rest) => (.plain x, rest)

def Comparison.ofSign? : Sign → Option Comparison
  | .equal => some .equal
  | .notEqual => some .notEqual
  | .less => some .less
  | .lessOrEqual => some .lessOrEqual
  | .greater => some .greater
  | .greaterOrEqual => some .greaterOrEqual
  | _ => none

def Test.readAfter? (left : Scalar) : List Token → Option (Test × List Token)
  | .sign s :: rest => do
      let comparison ← Comparison.ofSign? s
      let (right, rest) ← Scalar.read? rest
      some (.compare left comparison right, rest)
  | .word first :: .word second :: .literal pattern :: rest =>
      if isKeyword "NOT" first && isKeyword "GLOB" second then some (.glob left true pattern, rest) else none
  | .word first :: .literal pattern :: rest =>
      if isKeyword "GLOB" first then some (.glob left false pattern, rest)
      else if isKeyword "LIKE" first then do
        let rest ← expectWord "ESCAPE" rest
        match rest with
        | .literal "\\" :: rest => some (.like left (.plain (.text pattern)), rest)
        | _ => none
      else none
  | .word first :: rest =>
      if isKeyword "LIKE" first then do
        let (pattern, rest) ← Scalar.read? rest
        let rest ← expectWord "ESCAPE" rest
        match rest with
        | .literal "\\" :: rest => some (.like left pattern, rest)
        | _ => none
      else none
  | _ => none

def Test.read? (tokens : List Token) : Option (Test × List Token) := do
  let (left, rest) ← Scalar.read? tokens
  Test.readAfter? left rest

/-- Reads conditions between which the keyword for "and" stands. The fuel is at least their number. -/
def readConjunctionWith {α : Type} (read : List Token → Option (α × List Token)) :
    Nat → List Token → Option (List α × List Token)
  | 0, _ => none
  | fuel + 1, tokens => do
      let (condition, rest) ← read tokens
      match expectWord "AND" rest with
      | some rest => do
          let (conditions, rest) ← readConjunctionWith read fuel rest
          some (condition :: conditions, rest)
      | none => some ([condition], rest)

/-- Reads the part that restricts the rows, if there is one. -/
def readRestriction {α : Type} (read : List Token → Option (α × List Token)) (tokens : List Token) :
    Option (List α × List Token) :=
  match expectWord "WHERE" tokens with
  | some rest => readConjunctionWith read rest.length rest
  | none => some ([], tokens)

def readTable (tokens : List Token) : Option (Name × List Token) := do
  let rest ← expectWord "FROM" tokens
  match rest with
  | t :: rest => (Name.ofToken? t).map (·, rest)
  | [] => none

def readAggregateCall : List Token → Option ((Aggregate × Scalar) × List Token)
  | .word function :: .sign .opening :: rest => do
      let function ← [Aggregate.avg, .sum, .max, .min, .count].find? fun f => upperWord f.name == upperWord function
      let (value, rest) ← Scalar.read? rest
      let rest ← expectSign .closing rest
      some ((function, value), rest)
  | _ => none

def Extreme.read? (tokens : List Token) : Option (Extreme × List Token) := do
  let rest ← expectWord "SELECT" tokens
  let ((function, value), rest) ← readAggregateCall rest
  let (table, rest) ← readTable rest
  let (tests, rest) ← readRestriction Test.read? rest
  some (⟨function, value, table, tests⟩, rest)

def Condition.read? (tokens : List Token) : Option (Condition × List Token) := do
  let (left, rest) ← Scalar.read? tokens
  match rest with
  | .sign .equal :: .sign .opening :: rest => do
      let (extreme, rest) ← Extreme.read? rest
      let rest ← expectSign .closing rest
      some (.isExtreme left extreme, rest)
  | _ => (Test.readAfter? left rest).map fun (t, rest) => (.test t, rest)

/-- What a query asks for, as far as its beginning tells. -/
inductive Subject where
  | rows (columns : List Name)
  | distinct (column : Name)
  | rowCount
  | aggregate (function : Aggregate) (value : Scalar) (label : String)
  | frequencies (column : Name)

def readNames : List Token → Option (List Name × List Token)
  | [] => none
  | t :: .sign .comma :: rest => do
      let name ← Name.ofExpression? t
      let (names, rest) ← readNames rest
      some (name :: names, rest)
  | t :: rest => (Name.ofExpression? t).map fun name => ([name], rest)

def readCount (label : String) : List Token → Option (List Token)
  | .word function :: .sign .opening :: .sign .star :: .sign .closing :: .word joint :: .word name :: rest =>
      if isKeyword "COUNT" function && isKeyword "AS" joint && name == label then some rest else none
  | _ => none

/-- Reads the count of rows beside a column. -/
def readFrequencies : List Token → Option (Subject × List Token)
  | t :: .sign .comma :: rest => do
      let rest ← readCount "freq" rest
      let column ← Name.ofExpression? t
      some (.frequencies column, rest)
  | _ => none

def readLabelled (tokens : List Token) : Option (Subject × List Token) := do
  let ((function, value), rest) ← readAggregateCall tokens
  let rest ← expectWord "AS" rest
  match rest with
  | .word label :: rest => some (.aggregate function value label, rest)
  | _ => none

def Subject.read? : List Token → Option (Subject × List Token)
  | .sign .star :: rest => some (.rows [], rest)
  | tokens =>
      match expectWord "DISTINCT" tokens with
      | some (t :: rest) => (Name.ofExpression? t).map fun column => (.distinct column, rest)
      | some [] => none
      | none =>
          ((readCount "num_rows" tokens).map (Subject.rowCount, ·)).or
            ((readFrequencies tokens).or
              ((readLabelled tokens).or ((readNames tokens).map fun (names, rest) => (.rows names, rest))))

/-- Reads the limit and the start of a window. -/
def readWindow : List Token → Option Window
  | [.word first, .number limit, .word second, .number offset] =>
      if isKeyword "LIMIT" first && isKeyword "OFFSET" second then some ⟨limit, offset⟩ else none
  | _ => none

/-- The end of the ranking that a keyword names. -/
def FrequencyOrder.read? (word : String) : Option FrequencyOrder :=
  [most, least].find? fun order => isKeyword order.keyword word

def readPick (column : Name) (tokens : List Token) : Option FrequencyPick := do
  let rest ← expectWord "GROUP" tokens
  let rest ← expectWord "BY" rest
  match rest with
  | t :: .word order :: .word by' :: .word label :: .word direction :: .word limit :: [.number 1] =>
      if Name.ofExpression? t = some column ∧ isKeyword "ORDER" order ∧ isKeyword "BY" by' ∧ label = "freq"
          ∧ isKeyword "LIMIT" limit then
        (FrequencyOrder.read? direction).map .first
      else none
  | t :: .word having :: .word function :: .sign .opening :: .sign .star :: .sign .closing :: .sign .equal
      :: .number count :: .word order :: .word by' :: [u] =>
      if Name.ofExpression? t = some column ∧ Name.ofExpression? u = some column ∧ isKeyword "HAVING" having
          ∧ isKeyword "COUNT" function ∧ isKeyword "ORDER" order ∧ isKeyword "BY" by' then
        some (.exactly count)
      else none
  | _ => none

/-- What a query answers, from its beginning and the tokens after its conditions. -/
def Subject.answer? : Subject → List Token → Option Answer
  | rows columns, [] => some (.rows columns none)
  | rows columns, tokens => (readWindow tokens).map fun window => .rows columns (some window)
  | distinct column, [] => some (.distinct column)
  | rowCount, [] => some .rowCount
  | aggregate function value label, [] => some (.aggregate function value label)
  | frequencies column, tokens => (readPick column tokens).map (.frequencies column)
  | _, _ => none

def Query.read? (tokens : List Token) : Option Query := do
  let rest ← expectWord "SELECT" tokens
  let (subject, rest) ← Subject.read? rest
  let (table, rest) ← readTable rest
  let (conditions, rest) ← readRestriction Condition.read? rest
  let answer ← subject.answer? rest
  some ⟨answer, table, conditions⟩

def Query.ofText? (text : String) : Option Query := (lex text.toList).bind Query.read?

end Datasheet.Sql
