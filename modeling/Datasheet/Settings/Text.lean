import Datasheet.File
import Datasheet.Settings.Basic
import Datasheet.Text.Blank
import Datasheet.Toml.Reader

/-! # Settings as text

Settings are kept as TOML, one table for each group. A group or member that is absent has its default, and an
unknown one is skipped. A group may also be an array with the values of its members in order. Numbers are kept
as whole numbers of 64 bits, so a greater number cannot be written.
-/

namespace Datasheet

open Toml

/-- The members of a group, by name or in order. -/
inductive Members where
  | named (entries : List (String × Toml.Value))
  | listed (elements : List Toml.Value)

namespace Members

/-- The members of a value. A moment has none that any group knows. -/
def ofValue? : Toml.Value → Option Members
  | .table entries => some (.named entries)
  | .array elements => some (.listed elements)
  | .moment _ => some (.named [])
  | _ => none

def get? (m : Members) (name : String) (index : Nat) : Option Toml.Value :=
  match m with
  | named entries => entries.lookup name
  | listed elements => elements[index]?

/-- Reads a member; an absent one has its default. -/
def read? {α : Type} (m : Members) (name : String) (index : Nat) (absent : α)
    (decode : Toml.Value → Option α) : Option α :=
  match m.get? name index with
  | some v => decode v
  | none => some absent

end Members

namespace Settings

def text? : Toml.Value → Option String
  | .string s => some (String.ofList s)
  | _ => none

/-- The only character of a string. -/
def char? : Toml.Value → Option Char
  | .string [c] => some c
  | _ => none

def bool? : Toml.Value → Option Bool
  | .boolean b => some b
  | _ => none

def count? : Toml.Value → Option Nat
  | .integer n => if 0 ≤ n then some n.toNat else none
  | _ => none

def texts? : Toml.Value → Option (List String)
  | .array elements => elements.mapM text?
  | _ => none

def importing? (v : Toml.Value) : Option ImportSettings := do
  let m ← Members.ofValue? v
  let delimiter ← m.read? "delimiter" 0 ({} : ImportSettings).delimiter char?
  let trimCells ← m.read? "trim_cells" 1 ({} : ImportSettings).trimCells bool?
  some ⟨delimiter, trimCells⟩

def schema? (v : Toml.Value) : Option SchemaSettings := do
  let m ← Members.ofValue? v
  let maxDistinct ← m.read? "max_num_different_values" 0 ({} : SchemaSettings).maxDistinct count?
  let languages ← m.read? "languages" 1 ({} : SchemaSettings).languages texts?
  some ⟨maxDistinct, languages⟩

def query? (v : Toml.Value) : Option QuerySettings := do
  let m ← Members.ofValue? v
  let ignoreCase ← m.read? "ignore_case" 0 ({} : QuerySettings).ignoreCase bool?
  let pageSize ← m.read? "page_size" 1 ({} : QuerySettings).pageSize count?
  some ⟨ignoreCase, pageSize⟩

def sql? (v : Toml.Value) : Option SqlSettings := do
  let m ← Members.ofValue? v
  let tableName ← m.read? "table_name" 0 none fun v => (text? v).map some
  some ⟨tableName⟩

def ofEntries? (entries : List (String × Toml.Value)) : Option Settings := do
  let m := Members.named entries
  let importing ← m.read? "import" 0 {} importing?
  let schema ← m.read? "schema" 1 {} schema?
  let query ← m.read? "query" 2 {} query?
  let sql ← m.read? "sql" 3 {} sql?
  some ⟨importing, schema, query, sql⟩

/-- Reads settings from text. They have to be without a fault. -/
def ofText (text : String) : Except Error Settings :=
  match (Toml.read? text.toList).bind ofEntries? with
  | none => .error .settingsText
  | some s => do
      s.validate
      .ok s

def ofFile (file : File) : Except Error Settings := do
  let text ← file.readText
  ofText text

/-- Reads settings from the file where a host keeps them; without a file all settings have their defaults. -/
def load : File → Except Error Settings
  | .missing => .ok {}
  | file => ofFile file

/-- The greatest number that can be written. -/
def greatestCount : Nat := Nat.pow 2 63 - 1

def writeBool (b : Bool) : List Char := if b then "true".toList else "false".toList

/-- An array of strings as it is written: two or more elements take a line each. -/
def writeStrings : List String → List Char
  | [] => ['[', ']']
  | [s] => '[' :: (writeString s.toList ++ [']'])
  | strings => '[' :: (strings.flatMap (fun s => "\n    ".toList ++ writeString s.toList ++ [',']) ++ ['\n', ']'])

def writeMember (name : String) (value : List Char) : List Char := name.toList ++ " = ".toList ++ value ++ ['\n']

def writeGroup (name : String) (members : List (List Char)) : List Char :=
  '[' :: (name.toList ++ [']', '\n'] ++ members.flatten)

def groups (s : Settings) : List (List Char) :=
  [writeGroup "import"
     [writeMember "delimiter" (writeString [s.importing.delimiter]),
      writeMember "trim_cells" (writeBool s.importing.trimCells)],
   writeGroup "schema"
     [writeMember "max_num_different_values" (Nat.toDigits 10 s.schema.maxDistinct),
      writeMember "languages" (writeStrings s.schema.languages)],
   writeGroup "query"
     [writeMember "ignore_case" (writeBool s.query.ignoreCase),
      writeMember "page_size" (Nat.toDigits 10 s.query.pageSize)],
   writeGroup "sql"
     (match s.sql.tableName with
      | some name => [writeMember "table_name" (writeString name.toList)]
      | none => [])]

def toText (s : Settings) : Except Error String :=
  if s.schema.maxDistinct ≤ greatestCount ∧ s.query.pageSize ≤ greatestCount then
    .ok (String.ofList (Text.joinWith ['\n'] s.groups))
  else .error .settingsText

end Settings

end Datasheet
