import Datasheet.Log.Ring

/-! # Log lines

An entry is written on one line as `LEVEL target: message` and read back from it. Reading accepts any line: a
line without a level is informative, and a line without a target is general.
-/

namespace Datasheet.Log

open Text

/-- Splits a list at the first occurrence of an element, which is dropped. -/
def splitOnce? {α : Type} [DecidableEq α] (mark : α) : List α → Option (List α × List α)
  | [] => none
  | c :: rest =>
      if c = mark then some ([], rest)
      else (splitOnce? mark rest).map fun (before, after) => (c :: before, after)

def readLevel (line : List Char) : Level × List Char :=
  match splitOnce? ' ' line with
  | none => (.info, line)
  | some (word, rest) =>
      match Level.read? word with
      | some level => (level, trimStart rest)
      | none => (.info, line)

def readTarget (rest : List Char) : String × String :=
  match splitOnce? ':' rest with
  | none => ("general", String.ofList rest)
  | some (target, message) =>
      if target.isEmpty || target.contains ' ' then ("general", String.ofList rest)
      else (String.ofList target, String.ofList (trim message))

/-- The entry of a line; none for a blank line. -/
def Entry.ofLine? (line : List Char) : Option Entry :=
  let line := trim line
  if line.isEmpty then none
  else
    let (level, rest) := readLevel line
    let (target, message) := readTarget rest
    some ⟨level, target, message⟩

/-- The entries of a text, one for each line that is not blank. -/
def entriesOf (text : List Char) : List Entry :=
  (splitWhen (· == '\n') text).filterMap Entry.ofLine?

def Ring.write (r : Ring) (text : String) : Ring := (entriesOf text.toList).foldl Ring.push r

/-- Adds the entries of encoded text to a ring; bytes that are not UTF-8 add nothing. -/
def Ring.writeBytes (r : Ring) (bytes : List UInt8) : Ring :=
  match String.fromUTF8? ⟨bytes.toArray⟩ with
  | some text => r.write text
  | none => r

/-- The control characters that a terminal would act on, and the text they are written as. -/
def escapedControls : List (Char × List Char) :=
  [(Char.ofNat 0x1B, "\\x1b".toList), (Char.ofNat 0x07, "\\x07".toList), (Char.ofNat 0x08, "\\x08".toList),
   (Char.ofNat 0x0C, "\\x0c".toList), (Char.ofNat 0x7F, "\\x7f".toList)]

def writeMessageChar (c : Char) : List Char :=
  match escapedControls.lookup c with
  | some text => text
  | none =>
      if 0x80 ≤ c.toNat ∧ c.toNat ≤ 0x9F then
        "\\u\x7b".toList ++ Nat.toDigits 16 c.toNat ++ ['\x7d']
      else [c]

/-- The line of an entry. The level is set to the right in five places. -/
def Entry.line (e : Entry) : String :=
  let level := e.level.name.toList
  String.ofList (List.replicate (5 - level.length) ' ' ++ level ++ ' ' :: (e.target.toList ++ ':' :: ' '
    :: (e.message.toList.flatMap writeMessageChar ++ ['\n'])))

end Datasheet.Log
