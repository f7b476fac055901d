import Datasheet.Text.Blank

/-! # Quoting in SQL

Every name and value that goes into a query goes through this module. A quote inside of quotes is doubled, and
the signs that mean something in a pattern are escaped, so that they stand for themselves.
-/

namespace Datasheet.Sql

def startsWord (c : Char) : Bool := c.isAlpha || c == '_'

/-- A letter or digit of ASCII or an underscore. -/
def continuesWord (c : Char) : Bool := c.isAlphanum || c == '_'

def isPlainWord : List Char → Bool
  | [] => false
  | c :: rest => startsWord c && rest.all continuesWord

def needsQuoting (name : String) : Bool := !isPlainWord name.toList

def doubled (quote : Char) : List Char → List Char
  | [] => []
  | c :: rest => if c = quote then quote :: quote :: doubled quote rest else c :: doubled quote rest

def enclosed (quote : Char) (cs : List Char) : List Char := quote :: (doubled quote cs ++ [quote])

def identifier (name : String) : String :=
  if needsQuoting name then String.ofList (enclosed '"' name.toList) else name

def literal (value : String) : String := String.ofList (enclosed '\'' value.toList)

/-- The signs with a meaning in a pattern: the two wildcards and the escape sign. -/
def hasPatternMeaning (c : Char) : Bool := c == '\\' || c == '%' || c == '_'

/-- A pattern that only the text itself matches. -/
def escaped : List Char → List Char
  | [] => []
  | c :: rest => if hasPatternMeaning c then '\\' :: c :: escaped rest else c :: escaped rest

/-- A pattern that only the value itself matches. -/
def likePattern (value : String) : String := String.ofList (escaped value.toList)

/-- A part of a plain word made of a name: every character that a word cannot have becomes an underscore. -/
def wordPart (name : String) : String :=
  String.ofList (name.toList.map fun c => if continuesWord c then c else '_')

end Datasheet.Sql
