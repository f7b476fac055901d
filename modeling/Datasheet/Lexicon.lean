import Datasheet.Error
import Datasheet.Text.Dictionary
import Datasheet.Text.StringSet

/-! # Lexicons

A lexicon tells what the fields of a dataset are called: for each field a readable name and synonyms in each
language, and whether the field is one of those that identify a row.
-/

namespace Datasheet

/-- What one field is called. -/
structure Wording where
  readableNames : Dictionary String := []
  synonyms : Dictionary StringSet := []
  key : Bool := false
  deriving DecidableEq, Repr

namespace Wording

def withReadableName (w : Wording) (language name : String) : Wording :=
  { w with readableNames := Dictionary.put language name w.readableNames }

def withSynonym (w : Wording) (language synonym : String) : Wording :=
  let known := (Dictionary.get? language w.synonyms).getD []
  { w with synonyms := Dictionary.put language (StringSet.insert synonym known) w.synonyms }

def withKey (w : Wording) (key : Bool) : Wording := { w with key := key }

end Wording

/-- Wordings by field. -/
structure Lexicon where
  entries : Dictionary Wording := []
  deriving DecidableEq, Repr

namespace Lexicon

def get? (l : Lexicon) (field : String) : Option Wording := Dictionary.get? field l.entries

/-- The lexicon with a wording for a field, in place of an earlier one. -/
def put (l : Lexicon) (field : String) (w : Wording) : Lexicon := ⟨Dictionary.put field w l.entries⟩

def size (l : Lexicon) : Nat := l.entries.length

/-- The lexicon that calls each column by its own name in every language. -/
def ofColumns (columns languages : List String) : Lexicon :=
  columns.foldl
    (fun l column => l.put column (languages.foldl (fun w language => w.withReadableName language column) {}))
    {}

end Lexicon

end Datasheet
