import Datasheet.Json.Reader

/-! # Strings in TOML

A string is written in double or in single quotes, on one line or on several. Single quotes take every character
as it stands, double quotes have escapes. A string on several lines is enclosed in three quotes, may hold one or
two quotes anywhere, and drops a line break right after its opening quotes.
-/

namespace Datasheet.Toml

open Json

def isBlank (c : Char) : Bool := c == ' ' || c == '\t'

def skipBlanks (cs : List Char) : List Char := cs.dropWhile isBlank

def isLineChar (c : Char) : Bool := c == '\t' || (0x20 ≤ c.toNat && c.toNat != 0x7F)

def afterBreak? : List Char → Option (List Char)
  | '\n' :: rest => some rest
  | '\r' :: '\n' :: rest => some rest
  | _ => none

def readCode? (digits : Nat) (cs : List Char) : Option (Char × List Char) := do
  let values ← (cs.take digits).mapM hexDigit?
  let code := values.foldl (fun n d => 16 * n + d) 0
  if values.length = digits ∧ code.isValidChar then some (Char.ofNat code, cs.drop digits) else none

/-- Reads an escape after its backslash. -/
def readEscape? : List Char → Option (Char × List Char)
  | 'u' :: rest => readCode? 4 rest
  | 'U' :: rest => readCode? 8 rest
  | c :: rest => (([('b', Char.ofNat 8), ('t', '\t'), ('n', '\n'), ('f', Char.ofNat 12), ('r', '\r'), ('"', '"'),
      ('\\', '\\')] : List (Char × Char)).lookup c).map (·, rest)
  | [] => none

/-- Drops the blanks and line breaks at the start of a text. -/
def skipBreaks : List Char → List Char
  | [] => []
  | c :: rest =>
      if isBlank c || c == '\n' then skipBreaks rest
      else
        match c, rest with
        | '\r', '\n' :: after => skipBreaks after
        | _, _ => c :: rest

/-- What is left after a backslash that joins lines: it ends its line, and the blanks of the next line are
    dropped. -/
def afterJoin? (cs : List Char) : Option (List Char) := (afterBreak? (skipBlanks cs)).map skipBreaks

/-- Reads the rest of a string on one line. Each round takes at least one character. -/
def readLineString (quote : Char) (hasEscapes : Bool) : Nat → List Char → Option (List Char × List Char)
  | 0, _ => none
  | _ + 1, [] => none
  | fuel + 1, c :: rest =>
      if c = quote then some ([], rest)
      else if hasEscapes && c == '\\' then do
        let (escaped, after) ← readEscape? rest
        let (s, remaining) ← readLineString quote hasEscapes fuel after
        some (escaped :: s, remaining)
      else if isLineChar c then do
        let (s, remaining) ← readLineString quote hasEscapes fuel rest
        some (c :: s, remaining)
      else none

/-- Reads the rest of a string on several lines. Of a row of three quotes or more, up to two belong to the
    string and the next three close it. -/
def readLongString (quote : Char) (hasEscapes : Bool) : Nat → List Char → Option (List Char × List Char)
  | 0, _ => none
  | _ + 1, [] => none
  | fuel + 1, c :: rest =>
      if c = quote then
        let quotes := ((c :: rest).takeWhile (· == quote)).length
        if 3 ≤ quotes then
          let kept := min (quotes - 3) 2
          some (List.replicate kept quote, (c :: rest).drop (kept + 3))
        else do
          let (s, remaining) ← readLongString quote hasEscapes fuel rest
          some (c :: s, remaining)
      else if hasEscapes && c == '\\' then
        match afterJoin? rest with
        | some after => readLongString quote hasEscapes fuel after
        | none => do
            let (escaped, after) ← readEscape? rest
            let (s, remaining) ← readLongString quote hasEscapes fuel after
            some (escaped :: s, remaining)
      else
        match afterBreak? (c :: rest) with
        | some after => do
            let (s, remaining) ← readLongString quote hasEscapes fuel after
            some ('\n' :: s, remaining)
        | none =>
            if isLineChar c then do
              let (s, remaining) ← readLongString quote hasEscapes fuel rest
              some (c :: s, remaining)
            else none

/-- Reads a string of one line at its opening quote. -/
def readShort? : List Char → Option (List Char × List Char)
  | '"' :: rest => readLineString '"' true (rest.length + 1) rest
  | '\'' :: rest => readLineString '\'' false (rest.length + 1) rest
  | _ => none

def readString? : List Char → Option (List Char × List Char)
  | '"' :: '"' :: '"' :: rest =>
      readLongString '"' true (rest.length + 1) ((afterBreak? rest).getD rest)
  | '\'' :: '\'' :: '\'' :: rest =>
      readLongString '\'' false (rest.length + 1) ((afterBreak? rest).getD rest)
  | cs => readShort? cs

/-- The forms in which strings are written. -/
inductive StringForm where
  /-- Double quotes, one of them at each end. -/
  | plain
  /-- Single quotes, one of them at each end. -/
  | literal
  /-- Double quotes, three of them at each end. -/
  | long
  /-- Single quotes, three of them at each end. -/
  | longLiteral
  deriving DecidableEq, Repr

/-- The length of the longest row of a quote, after `row` of them. -/
def longestRow (quote : Char) (row : Nat) : List Char → Nat
  | [] => row
  | c :: rest => if c = quote then longestRow quote (row + 1) rest else max row (longestRow quote 0 rest)

/-- A character that single quotes can hold. -/
def isLiteralChar (c : Char) : Bool := isLineChar c || c == '\n'

/-- The form in which a string is written: the first one of plain, literal, long and long literal that holds it
    without an escape, apart from tabs. If there is none, double quotes hold it with escapes. -/
def StringForm.of (s : List Char) : StringForm :=
  let breaks := s.contains '\n'
  let literally := s.all isLiteralChar
  let unescaped := literally && !s.contains '\\'
  if unescaped && !s.contains '"' && !breaks then plain
  else if literally && !s.contains '\'' && !breaks then literal
  else if unescaped && longestRow '"' 0 s ≤ 2 then long
  else if literally && longestRow '\'' 0 s ≤ 2 then longLiteral
  else if breaks then long
  else plain

def fourDigits (n : Nat) : List Char :=
  let digits := (Nat.toDigits 16 n).map Char.toUpper
  List.replicate (4 - digits.length) '0' ++ digits

def writeChar (c : Char) : List Char :=
  match ([('\x08', 'b'), ('\t', 't'), ('\n', 'n'), ('\x0c', 'f'), ('\r', 'r'), ('"', '"'), ('\\', '\\')]
      : List (Char × Char)).lookup c with
  | some letter => ['\\', letter]
  | none => if c.toNat < 0x20 ∨ c.toNat = 0x7F then '\\' :: 'u' :: fourDigits c.toNat else [c]

/-- Characters between three double quotes, after `row` quotes of their own. Line breaks stand as they are, and
    so do quotes, but every third one of a row has an escape. -/
def writeLong (row : Nat) : List Char → List Char
  | [] => []
  | c :: rest =>
      if c = '"' then if row < 2 then c :: writeLong (row + 1) rest else writeChar c ++ writeLong 0 rest
      else (if c = '\n' then [c] else writeChar c) ++ writeLong 0 rest

/-- What stands between three opening quotes and a string: a line break, if the string has several lines. -/
def opening (s : List Char) : List Char := if s.contains '\n' then ['\n'] else []

def writeString (s : List Char) : List Char :=
  match StringForm.of s with
  | .plain => '"' :: (s.flatMap writeChar ++ ['"'])
  | .literal => '\'' :: (s ++ ['\''])
  | .long => '"' :: '"' :: '"' :: (opening s ++ writeLong 0 s ++ ['"', '"', '"'])
  | .longLiteral => '\'' :: '\'' :: '\'' :: (opening s ++ s ++ ['\'', '\'', '\''])

end Datasheet.Toml
