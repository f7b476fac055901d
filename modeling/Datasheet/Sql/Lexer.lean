import Datasheet.Number.Decimal
import Datasheet.Sql.Token

/-! # Reading SQL tokens

The engine cuts a text into the longest tokens it can. A quote runs to the next single quote of its kind, and a
quote that is written twice stands for one. Signs that no query of the library is written with are refused. The
engine sees a text only up to its first NUL.
-/

namespace Datasheet.Sql

open Text

def isGap (c : Char) : Bool := c == ' ' || c == '\t' || c == '\n' || c == '\r' || c.toNat == 0x0C

def opensWord (c : Char) : Bool := startsWord c || 0x80 ≤ c.toNat

def extendsWord (c : Char) : Bool := continuesWord c || c == '$' || 0x80 ≤ c.toNat

/-- Reads the rest of a quoted text and what follows it; none if the quote is not closed. -/
def readQuoted (quote : Char) : List Char → Option (List Char × List Char)
  | [] => none
  | [c] => if c = quote then some ([], []) else none
  | c :: d :: rest =>
      if c = quote then
        if d = quote then (readQuoted quote rest).map fun (text, after) => (quote :: text, after)
        else some ([], d :: rest)
      else (readQuoted quote (d :: rest)).map fun (text, after) => (c :: text, after)

def readSign : List Char → Option (Sign × List Char)
  | '<' :: '>' :: rest => some (.notEqual, rest)
  | '<' :: '=' :: rest => some (.lessOrEqual, rest)
  | '<' :: '<' :: _ => none
  | '<' :: rest => some (.less, rest)
  | '>' :: '=' :: rest => some (.greaterOrEqual, rest)
  | '>' :: '>' :: _ => none
  | '>' :: rest => some (.greater, rest)
  | '=' :: '=' :: _ => none
  | '=' :: rest => some (.equal, rest)
  | '*' :: rest => some (.star, rest)
  | ',' :: rest => some (.comma, rest)
  | '(' :: rest => some (.opening, rest)
  | ')' :: rest => some (.closing, rest)
  | _ => none

/-- Reads one token; none if no token of a query stands here. The letter X next to a quote would begin a value of
    bytes, and a digit next to a letter or a point would be no whole number. -/
def readToken : List Char → Option (Token × List Char)
  | [] => none
  | c :: rest =>
      if c = '"' then (readQuoted '"' rest).map fun (text, after) => (.quoted (String.ofList text), after)
      else if c = '\'' then
        (readQuoted '\'' rest).map fun (text, after) => (.literal (String.ofList text), after)
      else if opensWord c then
        let (word, after) := rest.span extendsWord
        if word.isEmpty && (c == 'x' || c == 'X') && after.head? == some '\'' then none
        else some (.word (String.ofList (c :: word)), after)
      else if c.isDigit then
        let (digits, after) := rest.span Char.isDigit
        if after.head?.any fun d => extendsWord d || d == '.' then none
        else some (.number (Decimal.digitsValue 0 (c :: digits)), after)
      else (readSign (c :: rest)).map fun (s, after) => (.sign s, after)

/-- Reads the tokens of a text. The fuel is at least the number of tokens and blanks. -/
def lexWith : Nat → List Char → Option (List Token)
  | _, [] => some []
  | 0, _ :: _ => none
  | fuel + 1, c :: rest =>
      if isGap c then lexWith fuel rest
      else do
        let (token, after) ← readToken (c :: rest)
        let tokens ← lexWith fuel after
        some (token :: tokens)

/-- The tokens of a text; none if the text is not made of tokens. -/
def lex (text : List Char) : Option (List Token) :=
  let seen := text.takeWhile (·.toNat != 0)
  lexWith seen.length seen

end Datasheet.Sql
