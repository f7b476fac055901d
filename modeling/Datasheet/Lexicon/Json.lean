import Datasheet.File
import Datasheet.Lexicon
import Datasheet.Json.Printer
import Datasheet.Json.Reader

/-! # Lexicons as JSON

A lexicon is an object of wordings, and a wording is an object with the members `readable_names`, `synonyms`
and `key`. A member that is absent has its default, an unknown member is skipped, and a repeated one is an
error. A wording may also be an array with the values of these members in this order. Where a name repeats in
any other object the last value counts.
-/

namespace Datasheet

open Json

namespace Lexicon

def textOf? : Value → Option String
  | .string (some s) => some (String.ofList s)
  | _ => none

def putMember? {α : Type} (decode : Value → Option α) (d : Dictionary α)
    (member : Option (List Char) × Value) : Option (Dictionary α) := do
  let name ← member.1
  let value ← decode member.2
  some (Dictionary.put (String.ofList name) value d)

def dictionaryOf? {α : Type} (decode : Value → Option α)
    (members : List (Option (List Char) × Value)) : Option (Dictionary α) :=
  members.foldlM (putMember? decode) []

def dictionary? {α : Type} (decode : Value → Option α) : Value → Option (Dictionary α)
  | .object members => dictionaryOf? decode members
  | _ => none

def stringSet? : Value → Option StringSet
  | .array elements => (elements.mapM textOf?).map StringSet.ofList
  | _ => none

def bool? : Value → Option Bool
  | .bool b => some b
  | _ => none

/-- The members of a wording read so far. -/
structure PartialWording where
  readableNames : Option (Dictionary String) := none
  synonyms : Option (Dictionary StringSet) := none
  key : Option Bool := none

namespace PartialWording

/-- The wording, with defaults for what is absent. -/
def complete (p : PartialWording) : Wording :=
  ⟨p.readableNames.getD [], p.synonyms.getD [], p.key.getD false⟩

def read? (p : PartialWording) : Option (List Char) × Value → Option PartialWording
  | (none, _) => none
  | (some name, v) =>
      if name = "readable_names".toList then
        if p.readableNames.isSome then none
        else (dictionary? textOf? v).map fun d => { p with readableNames := some d }
      else if name = "synonyms".toList then
        if p.synonyms.isSome then none
        else (dictionary? stringSet? v).map fun d => { p with synonyms := some d }
      else if name = "key".toList then
        if p.key.isSome then none else (bool? v).map fun b => { p with key := some b }
      else some p

end PartialWording

/-- A wording from the values of its members in order. -/
def wordingOfElements? : List Value → Option Wording
  | [] => some {}
  | [names] => do some { readableNames := ← dictionary? textOf? names }
  | [names, synonyms] => do
      some { readableNames := ← dictionary? textOf? names, synonyms := ← dictionary? stringSet? synonyms }
  | [names, synonyms, key] => do
      some ⟨← dictionary? textOf? names, ← dictionary? stringSet? synonyms, ← bool? key⟩
  | _ => none

def wording? : Value → Option Wording
  | .object members => (members.foldlM PartialWording.read? {}).map PartialWording.complete
  | .array elements => wordingOfElements? elements
  | _ => none

def ofJson (text : String) : Except Error Lexicon :=
  match (Json.read? text.toList).bind (dictionary? wording?) with
  | some entries => .ok ⟨entries⟩
  | none => .error (.schema .unreadableLexicon)

def ofFile (file : File) : Except Error Lexicon := do
  let text ← file.readText
  ofJson text

def ofText (s : String) : Value := .string (some s.toList)

def ofDictionary {α : Type} (encode : α → Value) (d : Dictionary α) : Value :=
  .object (d.map fun (name, v) => (some name.toList, encode v))

def ofWording (w : Wording) : Value :=
  .object [(some "readable_names".toList, ofDictionary ofText w.readableNames),
    (some "synonyms".toList, ofDictionary (fun set => .array (set.map ofText)) w.synonyms),
    (some "key".toList, .bool w.key)]

def toJson (l : Lexicon) : String := String.ofList (Json.write (ofDictionary ofWording l.entries))

end Lexicon

end Datasheet
