/-! # Reading delimited text

Records end at line breaks and fields at delimiters. A field that starts with a quote runs to the next single
quote, across delimiters and line breaks, and a double quote in it stands for one. Blank lines are no records.
The reader works on any alphabet with the four marks, so that bytes are read by the same rules as characters.
-/

namespace Datasheet.Delimited

/-- The symbols that structure delimited text. -/
structure Marks (α : Type) where
  delimiter : α
  quote : α
  lineFeed : α
  carriageReturn : α

/-- Where the reader stands. -/
inductive Place where
  /-- Before a record: line breaks are skipped. -/
  | record
  | field
  /-- In a field, outside of quotes. -/
  | plain
  | quoted
  /-- After a quote inside of quotes, which is doubled or closes them. -/
  | closing
  deriving DecidableEq, Repr

variable {α : Type} [DecidableEq α]

def Marks.breaksLine (m : Marks α) (c : α) : Bool := c = m.lineFeed || c = m.carriageReturn

/-- Reads the rest of a text into records. `field` is the field read so far and `fields` are the fields before
    it, both backwards. -/
def readFrom (m : Marks α) : Place → List α → List (List α) → List α → List (List (List α))
  | .record, _, _, [] => []
  | _, field, fields, [] => [(field.reverse :: fields).reverse]
  | .quoted, field, fields, c :: rest =>
      if c = m.quote then readFrom m .closing field fields rest
      else readFrom m .quoted (c :: field) fields rest
  | place, field, fields, c :: rest =>
      if place = .record ∧ m.breaksLine c = true then readFrom m .record [] [] rest
      else if (place = .record ∨ place = .field) ∧ c = m.quote then readFrom m .quoted [] fields rest
      else if place = .closing ∧ c = m.quote then readFrom m .quoted (c :: field) fields rest
      else if c = m.delimiter then readFrom m .field [] (field.reverse :: fields) rest
      else if m.breaksLine c then
        (field.reverse :: fields).reverse :: readFrom m .record [] [] rest
      else readFrom m .plain (c :: field) fields rest

def records (m : Marks α) (text : List α) : List (List (List α)) := readFrom m .record [] [] text

def charMarks (delimiter : Char) : Marks Char := ⟨delimiter, '"', '\n', '\r'⟩

def byteMarks (delimiter : Char) : Marks UInt8 :=
  ⟨UInt8.ofNat delimiter.toNat, UInt8.ofNat '"'.toNat, 10, 13⟩

def dropOrderMark : List Char → List Char
  | c :: rest => if c = Char.ofNat 0xFEFF then rest else c :: rest
  | [] => []

def dropOrderMarkBytes : List UInt8 → List UInt8
  | 0xEF :: 0xBB :: 0xBF :: rest => rest
  | bytes => bytes

end Datasheet.Delimited
