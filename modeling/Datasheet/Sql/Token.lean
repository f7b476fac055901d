import Datasheet.Sql.Quoting

/-! # SQL tokens

The text of a query is a row of tokens. Where two tokens stand next to each other, a rule about the pair says
whether a blank stands between them, so the text of a query is a function of its tokens.
-/

namespace Datasheet.Sql

open Text

/-- The signs that queries are written with. -/
inductive Sign where
  | star
  | comma
  | opening
  | closing
  | equal
  | notEqual
  | less
  | lessOrEqual
  | greater
  | greaterOrEqual
  deriving DecidableEq, Repr

def Sign.spelling : Sign → List Char
  | star => ['*']
  | comma => [',']
  | opening => ['(']
  | closing => [')']
  | equal => ['=']
  | notEqual => ['<', '>']
  | less => ['<']
  | lessOrEqual => ['<', '=']
  | greater => ['>']
  | greaterOrEqual => ['>', '=']

/-- One token of a query. -/
inductive Token where
  /-- A keyword, or a name without quotes. -/
  | word (text : String)
  | quoted (name : String)
  | literal (value : String)
  | number (n : Nat)
  | sign (s : Sign)
  deriving DecidableEq, Repr

namespace Token

def spelling : Token → List Char
  | word text => text.toList
  | quoted name => enclosed '"' name.toList
  | literal value => enclosed '\'' value.toList
  | number n => Nat.toDigits 10 n
  | sign s => s.spelling

/-- The token of a name, in quotes where it needs them. -/
def ofName (name : String) : Token := if needsQuoting name then quoted name else word name

/-- A blank stands between two neighbours, but not inside of parentheses or before a comma, nor between a word
    and its opening parenthesis, nor between a comma and a number. -/
def apart : Token → Token → Bool
  | sign .opening, _ => false
  | _, sign .closing => false
  | _, sign .comma => false
  | word _, sign .opening => false
  | sign .comma, number _ => false
  | _, _ => true

end Token

def spell : List Token → List Char
  | [] => []
  | [t] => t.spelling
  | t :: u :: rest => t.spelling ++ (if t.apart u then ' ' :: spell (u :: rest) else spell (u :: rest))

end Datasheet.Sql
