import Datasheet.Json.Value
import Datasheet.Number.Decimal

/-! # Reading JSON

A text is one value with blanks around it. The recursion is bounded by twice the length of the text: every
bracket that opens takes one character and two rounds.
-/

namespace Datasheet.Json

def isSpace (c : Char) : Bool := c == ' ' || c == '\n' || c == '\r' || c == '\t'

def skipSpace (cs : List Char) : List Char := cs.dropWhile isSpace

def hexDigit? (c : Char) : Option Nat :=
  if '0' ≤ c ∧ c ≤ '9' then some (c.toNat - 48)
  else if 'a' ≤ c ∧ c ≤ 'f' then some (c.toNat - 87)
  else if 'A' ≤ c ∧ c ≤ 'F' then some (c.toNat - 55)
  else none

def readUnit : List Char → Option (Nat × List Char)
  | a :: b :: c :: d :: rest => do
      let a ← hexDigit? a
      let b ← hexDigit? b
      let c ← hexDigit? c
      let d ← hexDigit? d
      some (((a * 16 + b) * 16 + c) * 16 + d, rest)
  | _ => none

/-- The first half of a surrogate pair. -/
def isHighHalf (unit : Nat) : Bool := 0xD800 ≤ unit && unit ≤ 0xDBFF

def isLowHalf (unit : Nat) : Bool := 0xDC00 ≤ unit && unit ≤ 0xDFFF

/-- Reads the rest of an escaped pair's second half, if there is one. -/
def readLowHalf : List Char → Option (Nat × List Char)
  | '\\' :: 'u' :: rest =>
      match readUnit rest with
      | some (unit, after) => if isLowHalf unit then some (unit, after) else none
      | none => none
  | _ => none

/-- The character that an escape of one letter stands for. -/
def shortEscape? (c : Char) : Option Char :=
  [('"', '"'), ('\\', '\\'), ('/', '/'), ('b', Char.ofNat 8), ('f', Char.ofNat 12), ('n', '\n'),
   ('r', '\r'), ('t', '\t')].lookup c

/-- Reads the rest of a string after its opening quote. Each round takes at least one character, so `fuel` of
    the text's length is enough. -/
def readString : Nat → List Char → Option (Option (List Char) × List Char)
  | 0, _ => none
  | _ + 1, [] => none
  | fuel + 1, c :: rest =>
      if c = '"' then some (some [], rest)
      else if c = '\\' then
        match rest with
        | [] => none
        | 'u' :: digits => do
            let (unit, after) ← readUnit digits
            match if isHighHalf unit then readLowHalf after else none with
            | some (low, afterPair) => do
                let (s, remaining) ← readString fuel afterPair
                let pair := 0x10000 + (unit - 0xD800) * 0x400 + (low - 0xDC00)
                some (s.map (Char.ofNat pair :: ·), remaining)
            | none => do
                let (s, remaining) ← readString fuel after
                if isHighHalf unit || isLowHalf unit then some (none, remaining)
                else some (s.map (Char.ofNat unit :: ·), remaining)
        | letter :: after => do
            let escaped ← shortEscape? letter
            let (s, remaining) ← readString fuel after
            some (s.map (escaped :: ·), remaining)
      else if c.toNat < 0x20 then none
      else do
        let (s, remaining) ← readString fuel rest
        some (s.map (c :: ·), remaining)

/-- Reads the whole part of a number: no zero before another digit. -/
def readWhole : List Char → Option (List Char × List Char)
  | '0' :: rest =>
      match rest with
      | c :: _ => if c.isDigit then none else some (['0'], rest)
      | [] => some (['0'], rest)
  | cs =>
      match Decimal.digits cs with
      | ([], _) => none
      | (ds, rest) => some (ds, rest)

def readPlaces : List Char → Option (List Char × List Char)
  | '.' :: rest =>
      match Decimal.digits rest with
      | ([], _) => none
      | (ds, after) => some ('.' :: ds, after)
  | cs => some ([], cs)

def readExponent : List Char → Option (List Char × List Char)
  | c :: rest =>
      if c = 'e' ∨ c = 'E' then
        let signed := match rest with
          | '+' :: _ => rest.take 1
          | '-' :: _ => rest.take 1
          | _ => []
        match Decimal.digits (rest.drop signed.length) with
        | ([], _) => none
        | (ds, after) => some (c :: signed ++ ds, after)
      else some ([], c :: rest)
  | [] => some ([], [])

def readNumber (cs : List Char) : Option (Value × List Char) := do
  let (sign, unsigned) := match cs with
    | '-' :: rest => (['-'], rest)
    | _ => ([], cs)
  let (whole, rest) ← readWhole unsigned
  let (places, rest) ← readPlaces rest
  let (exponent, rest) ← readExponent rest
  some (.number (sign ++ whole ++ places ++ exponent), rest)

def readWord (cs : List Char) : Option (Value × List Char) :=
  if "null".toList.isPrefixOf cs then some (.null, cs.drop 4)
  else if "true".toList.isPrefixOf cs then some (.bool true, cs.drop 4)
  else if "false".toList.isPrefixOf cs then some (.bool false, cs.drop 5)
  else none

mutual

def readValue : Nat → List Char → Option (Value × List Char)
  | 0, _ => none
  | fuel + 1, cs =>
      match skipSpace cs with
      | [] => none
      | '{' :: rest =>
          match skipSpace rest with
          | '}' :: after => some (.object [], after)
          | _ => do
              let (members, after) ← readMembers fuel rest
              some (.object members, after)
      | '[' :: rest =>
          match skipSpace rest with
          | ']' :: after => some (.array [], after)
          | _ => do
              let (elements, after) ← readElements fuel rest
              some (.array elements, after)
      | '"' :: rest => do
          let (s, after) ← readString (rest.length + 1) rest
          some (.string s, after)
      | c :: rest => if c = '-' || c.isDigit then readNumber (c :: rest) else readWord (c :: rest)

/-- Reads one element and the elements after it, down to the closing bracket. -/
def readElements : Nat → List Char → Option (List Value × List Char)
  | 0, _ => none
  | fuel + 1, cs => do
      let (v, rest) ← readValue fuel cs
      match skipSpace rest with
      | ',' :: after => do
          let (vs, remaining) ← readElements fuel after
          some (v :: vs, remaining)
      | ']' :: after => some ([v], after)
      | _ => none

/-- Reads one member and the members after it, down to the closing brace. -/
def readMembers : Nat → List Char → Option (List (Option (List Char) × Value) × List Char)
  | 0, _ => none
  | fuel + 1, cs => do
      match skipSpace cs with
      | '"' :: rest => do
          let (name, rest) ← readString (rest.length + 1) rest
          match skipSpace rest with
          | ':' :: rest => do
              let (v, rest) ← readValue fuel rest
              match skipSpace rest with
              | ',' :: after => do
                  let (ms, remaining) ← readMembers fuel after
                  some ((name, v) :: ms, remaining)
              | '}' :: after => some ([(name, v)], after)
              | _ => none
          | _ => none
      | _ => none

end

def read? (text : List Char) : Option Value :=
  match readValue (2 * text.length + 2) text with
  | some (v, rest) => if (skipSpace rest).isEmpty then some v else none
  | none => none

end Datasheet.Json
