import Datasheet.Kind

/-! # Filter operators

The operators are a closed set in three domains. A literal names an operator in any letter case and with any
blanks around and between its words.
-/

namespace Datasheet

open Text

/-- Comparisons of numbers. -/
inductive NumericOperator where
  | equal
  | notEqual
  | less
  | lessOrEqual
  | greater
  | greaterOrEqual
  deriving DecidableEq, Repr

/-- Comparisons of texts. -/
inductive TextOperator where
  | equals
  | different
  | contains
  | startsWith
  | endsWith
  deriving DecidableEq, Repr

/-- Comparisons of moments. -/
inductive DateOperator where
  | before
  | after
  deriving DecidableEq, Repr

/-- An operator of a filter. -/
inductive Operator where
  | numeric (op : NumericOperator)
  | text (op : TextOperator)
  | date (op : DateOperator)
  deriving DecidableEq, Repr

namespace Operator

def all : List Operator :=
  [numeric .equal, numeric .notEqual, numeric .less, numeric .lessOrEqual, numeric .greater,
   numeric .greaterOrEqual, text .equals, text .different, text .contains, text .startsWith,
   text .endsWith, date .before, date .after]

def word : Operator → String
  | numeric .equal => "="
  | numeric .notEqual => "!="
  | numeric .less => "<"
  | numeric .lessOrEqual => "<="
  | numeric .greater => ">"
  | numeric .greaterOrEqual => ">="
  | text .equals => "equals"
  | text .different => "different"
  | text .contains => "contains"
  | text .startsWith => "starts with"
  | text .endsWith => "ends with"
  | date .before => "before"
  | date .after => "after"

def domain : Operator → Kind
  | numeric _ => .number
  | text _ => .text
  | date _ => .date

/-- A literal in lower case with single spaces between its words. -/
def normalForm (literal : String) : String :=
  String.ofList (joinWith [' '] (words (lowercase (trim literal.toList))))

def read? (literal : String) : Option Operator :=
  all.find? (·.word == normalForm literal)

end Operator

end Datasheet
