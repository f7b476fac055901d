import Datasheet.Sql.Aggregate
import Datasheet.Sql.Token

/-! # SQL queries

The queries that the library asks of an SQL engine. A query is a value first; its tokens, and with them its
text, are functions of it.
-/

namespace Datasheet.Sql

open Text

/-- A name as it is written: a table, a column or a key. -/
structure Name where
  text : String
  quoted : Bool
  deriving DecidableEq, Repr

/-- What stands for one value. -/
inductive Operand where
  | column (name : Name)
  | text (value : String)
  deriving DecidableEq, Repr

/-- An expression of one value. -/
inductive Scalar where
  | plain (x : Operand)
  | upper (x : Operand)
  /-- The text without the spaces around it. -/
  | trimmed (x : Operand)
  | day (x : Operand)
  | decimal (x : Operand)
  deriving DecidableEq, Repr

/-- The comparisons of two values. -/
inductive Comparison where
  | equal
  | notEqual
  | less
  | lessOrEqual
  | greater
  | greaterOrEqual
  deriving DecidableEq, Repr

/-- A test of one row. -/
inductive Test where
  | compare (left : Scalar) (comparison : Comparison) (right : Scalar)
  /-- The text matches a pattern with wildcards, in which a backslash takes the meaning from a sign. -/
  | like (subject pattern : Scalar)
  /-- The text matches, or does not match, a pattern with character sets. -/
  | glob (subject : Scalar) (negated : Bool) (pattern : String)
  deriving DecidableEq, Repr

/-- An aggregate over the rows of a table that pass all tests. -/
structure Extreme where
  function : Aggregate
  value : Scalar
  table : Name
  tests : List Test
  deriving DecidableEq, Repr

/-- A condition on one row. -/
inductive Condition where
  | test (t : Test)
  | isExtreme (value : Scalar) (extreme : Extreme)
  deriving DecidableEq, Repr

/-- An end of the ranking of values by how often they occur. -/
inductive FrequencyOrder where
  | most
  | least
  deriving DecidableEq, Repr

/-- Which values of a column are listed with the number of their rows. -/
inductive FrequencyPick where
  | first (order : FrequencyOrder)
  /-- All values with exactly this many rows. -/
  | exactly (count : Nat)
  deriving DecidableEq, Repr

/-- At most `limit` rows after the first `offset`. -/
structure Window where
  limit : Nat
  offset : Nat
  deriving DecidableEq, Repr

/-- What a query answers about the rows that meet its conditions. -/
inductive Answer where
  /-- The rows with the named columns, or with all columns if none is named. -/
  | rows (columns : List Name) (window : Option Window)
  | distinct (column : Name)
  | rowCount
  | aggregate (function : Aggregate) (value : Scalar) (label : String)
  | frequencies (column : Name) (pick : FrequencyPick)
  deriving DecidableEq, Repr

/-- A query over one table. All conditions have to hold. -/
structure Query where
  answer : Answer
  table : Name
  conditions : List Condition := []
  deriving DecidableEq, Repr

def Name.ofText (text : String) : Name := ⟨text, needsQuoting text⟩

def Name.token (n : Name) : Token := if n.quoted then .quoted n.text else .word n.text

def Operand.token : Operand → Token
  | column name => name.token
  | text value => .literal value

def call (function : String) (argument : List Token) : List Token :=
  .word function :: .sign .opening :: (argument ++ [.sign .closing])

/-- The type of all numbers: 38 digits, four of them after the point. -/
def decimalType : List Token := call "DECIMAL" [.number 38, .sign .comma, .number 4]

def Scalar.tokens : Scalar → List Token
  | plain x => [x.token]
  | upper x => call "UPPER" [x.token]
  | trimmed x => call "trim" [x.token]
  | day x => call "date" [x.token]
  | decimal x => call "CAST" (x.token :: .word "as" :: decimalType)

def Comparison.sign : Comparison → Sign
  | equal => .equal
  | notEqual => .notEqual
  | less => .less
  | lessOrEqual => .lessOrEqual
  | greater => .greater
  | greaterOrEqual => .greaterOrEqual

def Test.tokens : Test → List Token
  | compare left comparison right => left.tokens ++ .sign comparison.sign :: right.tokens
  | like subject pattern =>
      subject.tokens ++ .word "LIKE" :: (pattern.tokens ++ [.word "ESCAPE", .literal "\\"])
  | glob subject negated pattern =>
      subject.tokens ++ ((if negated then [.word "NOT"] else []) ++ [.word "GLOB", .literal pattern])

def conjunction (conditions : List (List Token)) : List Token := joinWith [.word "AND"] conditions

/-- The tokens of the part that restricts the rows; none without conditions. -/
def restriction : List (List Token) → List Token
  | [] => []
  | conditions => .word "WHERE" :: conjunction conditions

def Extreme.tokens (e : Extreme) : List Token :=
  .word "SELECT" :: (call e.function.name e.value.tokens
    ++ .word "FROM" :: e.table.token :: restriction (e.tests.map Test.tokens))

def Condition.tokens : Condition → List Token
  | test t => t.tokens
  | isExtreme value extreme =>
      value.tokens ++ .sign .equal :: .sign .opening :: (extreme.tokens ++ [.sign .closing])

def countRows : List Token := call "COUNT" [.sign .star]

/-- The tokens of a list of columns; all columns if the list is empty. -/
def columnTokens : List Name → List Token
  | [] => [.sign .star]
  | columns => joinWith [.sign .comma] (columns.map fun column => [column.token])

def FrequencyOrder.keyword : FrequencyOrder → String
  | most => "DESC"
  | least => "ASC"

def Answer.subject : Answer → List Token
  | rows columns _ => columnTokens columns
  | distinct column => [.word "DISTINCT", column.token]
  | rowCount => countRows ++ [.word "as", .word "num_rows"]
  | aggregate function value label => call function.name value.tokens ++ [.word "as", .word label]
  | frequencies column _ => column.token :: .sign .comma :: (countRows ++ [.word "as", .word "freq"])

def Answer.suffix : Answer → List Token
  | rows _ (some window) => [.word "LIMIT", .number window.limit, .word "OFFSET", .number window.offset]
  | frequencies column (.first order) =>
      [.word "GROUP", .word "BY", column.token, .word "ORDER", .word "BY", .word "freq", .word order.keyword,
       .word "LIMIT", .number 1]
  | frequencies column (.exactly count) =>
      [.word "GROUP", .word "BY", column.token, .word "HAVING"] ++ countRows
        ++ [.sign .equal, .number count, .word "ORDER", .word "BY", column.token]
  | _ => []

def Query.tokens (q : Query) : List Token :=
  .word "SELECT" :: (q.answer.subject ++ .word "FROM" :: q.table.token
    :: (restriction (q.conditions.map Condition.tokens) ++ q.answer.suffix))

def Query.text (q : Query) : String := String.ofList (spell q.tokens)

end Datasheet.Sql
