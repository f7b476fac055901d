import Datasheet.Dataset
import Datasheet.Delimited.Reader
import Datasheet.File
import Datasheet.Settings.Basic

/-! # Importing datasets

A dataset is read from delimited text. The first record is the header, and every other record has to have as
many fields. Bytes are read by the same rules as characters; each field has to be UTF-8 by itself.
-/

namespace Datasheet.Dataset

open Text

def keptCell (settings : ImportSettings) (cell : String) : String :=
  if settings.trimCells then trimmed cell else cell

def decodeRecord {α : Type} (decode : List α → Option String) (record : List (List α)) :
    Except Error (List String) :=
  match record.mapM decode with
  | some cells => .ok cells
  | none => .error .delimitedText

/-- Decodes the records after the header. The first record that cannot be decoded or has another number of
    fields ends the import. -/
def decodeRows {α : Type} (decode : List α → Option String) (expected : Nat) :
    Nat → List (List (List α)) → Except Error (List (List String))
  | _, [] => .ok []
  | position, record :: records => do
      let cells ← decodeRecord decode record
      if cells.length = expected then
        let rest ← decodeRows decode expected (position + 1) records
        .ok (cells :: rest)
      else .error (.ragged position expected cells.length)

def ofRecords {α : Type} (decode : List α → Option String) (name : String) (settings : ImportSettings)
    (records : List (List (List α))) : Except Error Dataset := do
  let header ← decodeRecord decode (records.headD [])
  let rows ← decodeRows decode header.length 0 records.tail
  ofRows name (header.map (keptCell settings)) (rows.map (·.map (keptCell settings)))

def ofText (name : String) (settings : ImportSettings) (text : String) : Except Error Dataset := do
  let delimiter ← settings.checkDelimiter
  ofRecords (fun field => some (String.ofList field)) name settings
    (Delimited.records (Delimited.charMarks delimiter) (Delimited.dropOrderMark text.toList))

def ofBytes (name : String) (settings : ImportSettings) (bytes : List UInt8) : Except Error Dataset := do
  let delimiter ← settings.checkDelimiter
  ofRecords (fun field => String.fromUTF8? ⟨field.toArray⟩) name settings
    (Delimited.records (Delimited.byteMarks delimiter) (Delimited.dropOrderMarkBytes bytes))

/-- The name of a file without its last extension. A dot at the start begins no extension. -/
def stem (file : String) : String :=
  let backwards := file.toList.reverse
  let extension := backwards.takeWhile (· != '.')
  let kept := (backwards.drop (extension.length + 1)).reverse
  if file = ".." then file
  else if kept.isEmpty then file
  else String.ofList kept

/-- Reads a dataset from a file; it is named after the file. A missing file is found out before anything else,
    and an unreadable one after the settings have been checked. -/
def ofFile (file : String) (settings : ImportSettings) : File → Except Error Dataset
  | .missing => .error .file
  | .directory => do
      let _ ← settings.checkDelimiter
      .error .delimitedText
  | .text contents => ofText (stem file) settings contents
  | .bytes contents => ofBytes (stem file) settings contents

end Datasheet.Dataset
