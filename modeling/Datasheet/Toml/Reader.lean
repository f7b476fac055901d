import Datasheet.Toml.Item
import Datasheet.Toml.Scalar

/-! # Reading TOML lines

A text is a row of headers and of keys with values, one to a line. A key is a path of names, each of them bare or
in quotes. Arrays may run over several lines, tables in braces may not.
-/

namespace Datasheet.Toml

/-- A header and what it opens for the lines below it. -/
inductive Header where
  | table (key : Key)
  | element (key : Key)

/-- One line of a text. -/
inductive Line where
  | pair (key : Key) (value : Value)
  | header (h : Header)

/-- Values and keys are nested less deeply than this. -/
def depthLimit : Nat := 80

def isBareChar (c : Char) : Bool := c.isAlphanum || c == '_' || c == '-'

def readName? (cs : List Char) : Option (String × List Char) :=
  match readShort? cs with
  | some (name, rest) => some (String.ofList name, rest)
  | none =>
      match cs.span isBareChar with
      | ([], _) => none
      | (name, rest) => some (String.ofList name, rest)

/-- Reads the names of a path, with blanks around each. Each round takes at least one character. -/
def readNames? : Nat → List Char → Option (List String × List Char)
  | 0, _ => none
  | fuel + 1, cs => do
      let (name, rest) ← readName? (skipBlanks cs)
      match skipBlanks rest with
      | '.' :: after => do
          let (names, remaining) ← readNames? fuel after
          some (name :: names, remaining)
      | after => some ([name], after)

def readKey? (cs : List Char) : Option (Key × List Char) := do
  let (names, rest) ← readNames? (cs.length + 1) cs
  let name ← names.getLast?
  if names.length < depthLimit then some (⟨names.dropLast, name⟩, rest) else none

/-- Drops blanks, line breaks and comments, which may stand anywhere in an array. -/
def skipLoose : Bool → List Char → List Char
  | _, [] => []
  | _, '\n' :: rest => skipLoose false rest
  | _, '\r' :: '\n' :: rest => skipLoose false rest
  | true, c :: rest => if isLineChar c then skipLoose true rest else c :: rest
  | false, c :: rest =>
      if isBlank c then skipLoose false rest else if c = '#' then skipLoose true rest else c :: rest

/-- What is left after the end of a line: blanks, a comment and a line break or the end of the text. -/
def afterLine? (cs : List Char) : Option (List Char) :=
  let rest := match skipBlanks cs with
    | '#' :: comment => comment.dropWhile isLineChar
    | other => other
  if rest.isEmpty then some [] else afterBreak? rest

def entriesOf? (pairs : List (Key × Value)) (entries : Entries) : Option Entries :=
  pairs.foldlM (fun entries (key, v) => Item.put? key.name v key.parents entries) entries

mutual

/-- Reads a value. `depth` is how many arrays and tables may still be opened. -/
def readValue? : Nat → Nat → List Char → Option (Value × List Char)
  | 0, _, _ => none
  | fuel + 1, depth, cs =>
      match cs with
      | [] => none
      | '[' :: rest =>
          match depth with
          | 0 => none
          | depth + 1 => (readElements? fuel depth rest).map fun (elements, after) => (.array elements, after)
      | '{' :: rest =>
          match depth with
          | 0 => none
          | depth + 1 =>
              match skipBlanks rest with
              | '}' :: after => some (.table [], after)
              | _ => do
                  let (pairs, after) ← readPairs? fuel depth rest
                  let entries ← entriesOf? pairs []
                  some (.table (Item.finishedEntries entries), after)
      | c :: rest =>
          if c = '"' ∨ c = '\'' then (readString? (c :: rest)).map fun (s, after) => (.string s, after)
          else if "true".toList.isPrefixOf (c :: rest) then some (.boolean true, rest.drop 3)
          else if "false".toList.isPrefixOf (c :: rest) then some (.boolean false, rest.drop 4)
          else readScalar? (c :: rest)

/-- Reads the elements of an array, down to its closing bracket. A comma may follow the last one. -/
def readElements? : Nat → Nat → List Char → Option (List Value × List Char)
  | 0, _, _ => none
  | fuel + 1, depth, cs =>
      match skipLoose false cs with
      | ']' :: after => some ([], after)
      | start => do
          let (v, rest) ← readValue? fuel depth start
          match skipLoose false rest with
          | ',' :: after => do
              let (vs, remaining) ← readElements? fuel depth after
              some (v :: vs, remaining)
          | ']' :: after => some ([v], after)
          | _ => none

/-- Reads the pairs of a table in braces, down to its closing brace. -/
def readPairs? : Nat → Nat → List Char → Option (List (Key × Value) × List Char)
  | 0, _, _ => none
  | fuel + 1, depth, cs => do
      let (key, rest) ← readKey? cs
      match rest with
      | '=' :: rest => do
          let (v, rest) ← readValue? fuel depth (skipBlanks rest)
          match skipBlanks rest with
          | ',' :: after => do
              let (pairs, remaining) ← readPairs? fuel depth after
              some ((key, v) :: pairs, remaining)
          | '}' :: after => some ([(key, v)], after)
          | _ => none
      | _ => none

end

def readHeader? (closing : List Char) (cs : List Char) : Option (Key × List Char) := do
  let (key, rest) ← readKey? cs
  if closing.isPrefixOf rest then
    let after ← afterLine? (rest.drop closing.length)
    some (key, after)
  else none

/-- Reads a line that is not empty. -/
def readLine? (cs : List Char) : Option (Line × List Char) :=
  match cs with
  | '[' :: '[' :: rest => (readHeader? [']', ']'] rest).map fun (key, after) => (.header (.element key), after)
  | '[' :: rest => (readHeader? [']'] rest).map fun (key, after) => (.header (.table key), after)
  | _ => do
      let (key, rest) ← readKey? cs
      match rest with
      | '=' :: rest => do
          let (v, rest) ← readValue? (2 * cs.length + 2) (depthLimit - 1) (skipBlanks rest)
          let after ← afterLine? rest
          some (.pair key v, after)
      | _ => none

/-- Reads all lines; empty lines and comments are skipped. Each round takes at least one character. -/
def readLines? : Nat → List Char → Option (List Line)
  | 0, _ => none
  | fuel + 1, cs =>
      match skipBlanks cs with
      | [] => some []
      | start =>
          match afterLine? start with
          | some after => readLines? fuel after
          | none => do
              let (line, after) ← readLine? start
              let lines ← readLines? fuel after
              some (line :: lines)

/-- The pairs before the first header, and each header with the pairs below it. -/
def sections : List Line → List (Key × Value) × List (Header × List (Key × Value))
  | [] => ([], [])
  | .pair key v :: lines =>
      let (pairs, later) := sections lines
      ((key, v) :: pairs, later)
  | .header h :: lines =>
      let (pairs, later) := sections lines
      ([], (h, pairs) :: later)

def addSection? (entries : Entries) : Header × List (Key × Value) → Option Entries
  | (.table key, pairs) => Item.reach? (Item.openTable? key.name (entriesOf? pairs)) key.parents entries
  | (.element key, pairs) => Item.reach? (Item.openElement? key.name (entriesOf? pairs)) key.parents entries

def dropOrderMark : List Char → List Char
  | c :: rest => if c = Char.ofNat 0xFEFF then rest else c :: rest
  | [] => []

def read? (text : List Char) : Option (List (String × Value)) := do
  let start := dropOrderMark text
  let lines ← readLines? (start.length + 1) start
  let root ← entriesOf? (sections lines).1 []
  let entries ← (sections lines).2.foldlM addSection? root
  some (Item.finishedEntries entries)

end Datasheet.Toml
