/-! # Writing delimited text

Fields are separated by commas and records end with a line feed. A field is quoted where it holds a comma, a
quote or a line break; a record that would be empty is written as an empty field in quotes, so that it is not
taken for a blank line.
-/

namespace Datasheet.Delimited

def needsQuotes (c : Char) : Bool := c == ',' || c == '"' || c == '\n' || c == '\r'

def doubleQuotes : List Char → List Char
  | [] => []
  | c :: rest => if c = '"' then '"' :: '"' :: doubleQuotes rest else c :: doubleQuotes rest

def writeField (field : List Char) : List Char :=
  if field.any needsQuotes then '"' :: (doubleQuotes field ++ ['"']) else field

def writeFields : List (List Char) → List Char
  | [] => []
  | [field] => writeField field
  | field :: fields => writeField field ++ ',' :: writeFields fields

def writeRecord (fields : List (List Char)) : List Char :=
  let line := writeFields fields
  (if line.isEmpty then ['"', '"'] else line) ++ ['\n']

def write (records : List (List (List Char))) : List Char := records.flatMap writeRecord

end Datasheet.Delimited
