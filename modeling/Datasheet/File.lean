import Datasheet.Error

/-! # Files

The library opens no files itself. A host tells what it found at a path, and the library reads that.
-/

namespace Datasheet

/-- What a host finds at a path. -/
inductive File where
  | missing
  /-- A directory, which can be opened but not read. -/
  | directory
  | text (contents : String)
  | bytes (contents : List UInt8)

/-- The whole text of a file, which has to be UTF-8. -/
def File.readText : File → Except Error String
  | text contents => .ok contents
  | bytes contents =>
      match String.fromUTF8? ⟨contents.toArray⟩ with
      | some contents => .ok contents
      | none => .error .file
  | missing => .error .file
  | directory => .error .file

end Datasheet
