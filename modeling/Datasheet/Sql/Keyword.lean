import Datasheet.Sql.Query
import Datasheet.Text.Lowercase

/-! # Keywords of SQL

A word without quotes is a name unless it is a keyword. Most keywords can still be names where the engine does
not expect them as keywords; the others never are. Letter case does not matter.
-/

namespace Datasheet.Sql

open Text

def reservedWords : List String :=
  ["ADD", "ALL", "ALTER", "AND", "AS", "AUTOINCREMENT", "BETWEEN", "CASE", "CHECK", "COLLATE", "COMMIT",
   "CONSTRAINT", "CREATE", "DEFAULT", "DEFERRABLE", "DELETE", "DISTINCT", "DROP", "ELSE", "ESCAPE", "EXCEPT",
   "EXISTS", "FOREIGN", "FROM", "GROUP", "HAVING", "IN", "INDEX", "INSERT", "INTERSECT", "INTO", "IS", "ISNULL",
   "JOIN", "LIMIT", "NOT", "NOTHING", "NOTNULL", "NULL", "ON", "OR", "ORDER", "PRIMARY", "REFERENCES",
   "RETURNING", "SELECT", "SET", "TABLE", "THEN", "TO", "TRANSACTION", "UNION", "UNIQUE", "UPDATE", "USING",
   "VALUES", "WHEN", "WHERE"]

/-- Keywords that stand for what the clock tells. -/
def clockWords : List String := ["CURRENT_DATE", "CURRENT_TIME", "CURRENT_TIMESTAMP"]

/-- Keywords that stand for a value in an expression: the missing value, or what the clock tells. -/
def valueWords : List String := "NULL" :: clockWords

/-- Keywords that begin an expression of their own, so that no column can be named by them. -/
def expressionWords : List String := ["CAST", "RAISE"] ++ clockWords

def upperWord (word : String) : String := String.ofList (word.toList.map upperAscii)

/-- The word is the keyword, in any letter case. -/
def isKeyword (keyword word : String) : Bool := upperWord word == keyword

def Name.ofToken? : Token → Option Name
  | .word text => if reservedWords.contains (upperWord text) then none else some ⟨text, false⟩
  | .quoted text => some ⟨text, true⟩
  | _ => none

/-- The name of a column in an expression. A word for a value stands for itself. -/
def Name.ofExpression? : Token → Option Name
  | .word text =>
      if valueWords.contains (upperWord text) then some ⟨text, false⟩
      else if expressionWords.contains (upperWord text) then none
      else Name.ofToken? (.word text)
  | t => Name.ofToken? t

end Datasheet.Sql
