import Datasheet.Text.Lowercase

/-! # Patterns of the SQL engine

A pattern is a row of parts, each of which stands for any text, for one character, or for one character of a
set. There are two notations: one has two wildcards and ignores the case of ASCII letters, the other one has
character sets and does not. A text is seen up to its first NUL, and the two last characters of the basic plane
are read as the replacement character.
-/

namespace Datasheet.Sql

open Text

/-- One part of a pattern. -/
inductive PatternPart where
  /-- Any text, also none. -/
  | anything
  | one
  | exactly (c : Char)
  /-- A character in one of the ranges, or in none of them. -/
  | among (negated : Bool) (ranges : List (Char × Char))
  deriving DecidableEq, Repr

/-- A row of parts. -/
abbrev Pattern := List PatternPart

/-- Some end of a text, the whole text included, has a property. -/
def anySuffix (p : List Char → Bool) : List Char → Bool
  | [] => p []
  | c :: rest => p (c :: rest) || anySuffix p rest

def PatternPart.accepts : PatternPart → Char → Bool
  | anything, _ => false
  | one, _ => true
  | exactly c, d => c == d
  | among negated ranges, d => negated != ranges.any fun (low, high) => low ≤ d && d ≤ high

def Pattern.holds : Pattern → List Char → Bool
  | [], text => text.isEmpty
  | .anything :: parts, text => anySuffix (Pattern.holds parts) text
  | _ :: _, [] => false
  | part :: parts, c :: text => part.accepts c && Pattern.holds parts text

def seenChar (c : Char) : Char :=
  if c.toNat = 0xFFFE ∨ c.toNat = 0xFFFF then Char.ofNat 0xFFFD else c

def seenText (text : String) : List Char := (text.toList.takeWhile (·.toNat != 0)).map seenChar

/-- Reads the notation with two wildcards and an escape sign; none if the escape sign is last. -/
def Pattern.ofLike? : List Char → Option Pattern
  | [] => some []
  | '\\' :: c :: rest => (Pattern.ofLike? rest).map (.exactly c :: ·)
  | ['\\'] => none
  | '%' :: rest => (Pattern.ofLike? rest).map (.anything :: ·)
  | '_' :: rest => (Pattern.ofLike? rest).map (.one :: ·)
  | c :: rest => (Pattern.ofLike? rest).map (.exactly c :: ·)

/-- Reads the members of a character set up to its closing bracket, after a member that may begin a range. -/
def readSet : Option Char → List Char → Option (List (Char × Char) × List Char)
  | _, [] => none
  | _, ']' :: rest => some ([], rest)
  | some low, '-' :: c :: rest =>
      if c = ']' then some ([('-', '-')], rest)
      else (readSet none rest).map fun (ranges, after) => ((low, c) :: ranges, after)
  | _, c :: rest => (readSet (some c) rest).map fun (ranges, after) => ((c, c) :: ranges, after)

/-- Reads a character set after its opening bracket. A closing bracket that comes first is a member. -/
def readSetStart (text : List Char) : Option (PatternPart × List Char) :=
  let (negated, members) := match text with
    | '^' :: rest => (true, rest)
    | _ => (false, text)
  match members with
  | ']' :: rest => (readSet none rest).map fun (ranges, after) => (.among negated ((']', ']') :: ranges), after)
  | _ => (readSet none members).map fun (ranges, after) => (.among negated ranges, after)

/-- Reads the notation with character sets; none if a set is not closed. -/
def Pattern.ofGlobWith? : Nat → List Char → Option Pattern
  | _, [] => some []
  | 0, _ :: _ => none
  | fuel + 1, '*' :: rest => (Pattern.ofGlobWith? fuel rest).map (.anything :: ·)
  | fuel + 1, '?' :: rest => (Pattern.ofGlobWith? fuel rest).map (.one :: ·)
  | fuel + 1, '[' :: rest => do
      let (part, after) ← readSetStart rest
      let parts ← Pattern.ofGlobWith? fuel after
      some (part :: parts)
  | fuel + 1, c :: rest => (Pattern.ofGlobWith? fuel rest).map (.exactly c :: ·)

/-- Reads the notation with character sets. -/
def Pattern.ofGlob? (text : List Char) : Option Pattern := Pattern.ofGlobWith? text.length text

/-- The text matches a pattern with two wildcards, in any case of ASCII letters. -/
def likeHolds (pattern text : String) : Bool :=
  match Pattern.ofLike? ((seenText pattern).map lowerAscii) with
  | some parts => parts.holds ((seenText text).map lowerAscii)
  | none => false

def globHolds (pattern text : String) : Bool :=
  match Pattern.ofGlob? (seenText pattern) with
  | some parts => parts.holds (seenText text)
  | none => false

end Datasheet.Sql
