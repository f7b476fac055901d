import Datasheet.Dataset
import Datasheet.Lexicon
import Datasheet.Profile
import Datasheet.Settings.Basic

/-! # Schemas

A schema describes the columns of a dataset by fields. It is inferred once; afterwards only explicit edits
change it. A deleted field is kept aside and can be recovered, and no two fields, live or deleted, have one
name.
-/

namespace Datasheet

open Text

/-- What is known of one column. -/
structure Field where
  name : String
  readableNames : Dictionary String := []
  synonyms : Dictionary StringSet := []
  kind : Kind
  distinct : Nat := 0
  /-- A text column with few distinct cells. -/
  categorical : Bool := false
  /-- The distinct cells of a categorical column. -/
  mainValues : StringSet := []
  key : Bool := false
  deriving DecidableEq, Repr

namespace Field

/-- A field of which only name and kind are known. -/
def make (name : String) (kind : Kind) : Field := { name := name, kind := kind.settled }

def ofProfile (name : String) (p : Profile) (w : Wording) : Field where
  name := name
  readableNames := w.readableNames
  synonyms := w.synonyms
  kind := p.kind.settled
  distinct := p.distinct
  categorical := p.isCategorical
  mainValues := p.mainValues.getD []
  key := w.key

def readableName? (f : Field) (language : String) : Option String :=
  Dictionary.get? language f.readableNames

def synonymsIn (f : Field) (language : String) : StringSet :=
  (Dictionary.get? language f.synonyms).getD []

def setKey (f : Field) (key : Bool) : Field := { f with key := key }

def setReadableName (f : Field) (language name : String) : Field :=
  { f with readableNames := Dictionary.put language name f.readableNames }

/-- Adds a synonym: false if the field had it already. -/
def addSynonym (f : Field) (language synonym : String) : Bool × Field :=
  (!(f.synonymsIn language).contains synonym,
   { f with synonyms :=
      Dictionary.put language (StringSet.insert synonym (f.synonymsIn language)) f.synonyms })

/-- Removes a synonym: false if the field did not have it. -/
def removeSynonym (f : Field) (language synonym : String) : Bool × Field :=
  match Dictionary.get? language f.synonyms with
  | none => (false, f)
  | some known =>
      (known.contains synonym,
       { f with synonyms := Dictionary.put language (StringSet.remove synonym known) f.synonyms })

/-- Two texts that differ at most in the case of ASCII letters. -/
def sameIgnoringCase (a b : String) : Bool := a.toList.map lowerAscii == b.toList.map lowerAscii

/-- The field is called by a text, without the blanks around it, in a language. -/
def answersTo (f : Field) (language text : String) : Bool :=
  let wanted := trimmed text
  (f.readableName? language).any (sameIgnoringCase · wanted)
    || (f.synonymsIn language).any (sameIgnoringCase · wanted)

end Field

/-- Fields in order, and the deleted ones aside. -/
structure Schema where
  name : String
  fields : List Field := []
  deleted : List Field := []
  deriving DecidableEq, Repr

namespace Schema

def fieldNames (s : Schema) : List String := s.fields.map (·.name)

def keyNames (s : Schema) : List String := (s.fields.filter (·.key)).map (·.name)

def field? (s : Schema) (name : String) : Option Field := s.fields.find? (·.name == name)

def kindOf? (s : Schema) (name : String) : Option Kind := (s.field? name).map (·.kind)

/-- The first live field that is called by a text in a language. -/
def findByWording? (s : Schema) (language text : String) : Option Field :=
  s.fields.find? (·.answersTo language text)

/-- Some field, live or deleted, has the name. -/
def hasName (s : Schema) (name : String) : Bool :=
  s.fields.any (·.name == name) || s.deleted.any (·.name == name)

def add (s : Schema) (f : Field) : Except Error Schema :=
  if s.hasName f.name then .error (.schema (.duplicateField f.name s.name))
  else .ok { s with fields := s.fields ++ [f] }

/-- Takes the first field of a name out of a list. -/
def takeOut? (name : String) : List Field → Option (Field × List Field)
  | [] => none
  | f :: rest =>
      if f.name = name then some (f, rest)
      else (takeOut? name rest).map fun (found, others) => (found, f :: others)

/-- Moves a live field to the deleted ones. -/
def delete (s : Schema) (name : String) : Except Error Schema :=
  match takeOut? name s.fields with
  | some (f, rest) => .ok { s with fields := rest, deleted := s.deleted ++ [f] }
  | none => .error (.unknownField name)

/-- Moves a deleted field back, after the live ones. -/
def recover (s : Schema) (name : String) : Except Error Schema :=
  match takeOut? name s.deleted with
  | some (f, rest) => .ok { s with fields := s.fields ++ [f], deleted := rest }
  | none => .error (.unknownField name)

/-- Edits the first field of a name in a list. -/
def editFirst (name : String) (edit : Field → Field) : List Field → List Field
  | [] => []
  | f :: rest => if f.name = name then edit f :: rest else f :: editFirst name edit rest

def edit (s : Schema) (name : String) (change : Field → Field) : Schema :=
  { s with fields := editFirst name change s.fields }

/-- A wording has a readable name that is not blank in every language. -/
def checkWording (languages : List String) (field : String) (w : Wording) : Except Error Unit :=
  match languages.find? fun language =>
      match Dictionary.get? language w.readableNames with
      | some name => (trimmed name).isEmpty
      | none => true with
  | some language => .error (.schema (.unnamed field language))
  | none => .ok ()

def inferField (settings : SchemaSettings) (lexicon : Lexicon) (d : Dataset) (index : Nat)
    (column : String) : Except Error Field := do
  match lexicon.get? column with
  | none => .error (.schema (.undescribed column))
  | some w =>
      checkWording settings.languages column w
      .ok (Field.ofProfile column (Profile.ofCells (d.sheet.cellsAt index) settings.maxDistinct) w)

def inferFrom (settings : SchemaSettings) (lexicon : Lexicon) (d : Dataset) :
    Nat → List String → Schema → Except Error Schema
  | _, [], s => .ok s
  | index, column :: columns, s => do
      let f ← inferField settings lexicon d index column
      let s' ← s.add f
      inferFrom settings lexicon d (index + 1) columns s'

/-- The schema of a dataset: one field for each column, in order. Every column needs a wording with a
    readable name in every language. -/
def infer (settings : SchemaSettings) (lexicon : Lexicon) (d : Dataset) : Except Error Schema :=
  inferFrom settings lexicon d 0 d.sheet.header { name := d.name }

end Schema

end Datasheet
