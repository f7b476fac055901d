import Datasheet.Error

/-! # Settings

What a host may choose: how delimited text is read, when a text column counts as categorical and which
languages it is described in, how queries compare and page, and the name of the SQL table.
-/

namespace Datasheet

/-- How delimited text is read. -/
structure ImportSettings where
  delimiter : Char := ','
  /-- Blanks around cells are dropped. -/
  trimCells : Bool := false
  deriving DecidableEq, Repr

/-- How columns are described. -/
structure SchemaSettings where
  /-- A text column with at most this many distinct values is categorical. -/
  maxDistinct : Nat := 10
  /-- The languages in which every field has a readable name. -/
  languages : List String := ["en"]
  deriving DecidableEq, Repr

/-- How queries compare and page. -/
structure QuerySettings where
  /-- Texts are compared without regard to letter case, in memory and in SQL. -/
  ignoreCase : Bool := true
  pageSize : Nat := 10
  deriving DecidableEq, Repr

/-- How the SQL engine holds a dataset. -/
structure SqlSettings where
  /-- The name of the table; the dataset's name if none. -/
  tableName : Option String := none
  deriving DecidableEq, Repr

/-- All settings. -/
structure Settings where
  importing : ImportSettings := {}
  schema : SchemaSettings := {}
  query : QuerySettings := {}
  sql : SqlSettings := {}
  deriving DecidableEq, Repr

namespace ImportSettings

/-- The delimiter has to be one ASCII character, a single byte of the text. -/
def checkDelimiter (s : ImportSettings) : Except Error Char :=
  if s.delimiter.toNat < 0x80 then .ok s.delimiter else .error (.settings (.delimiter s.delimiter))

end ImportSettings

namespace Settings

/-- The first fault of settings: a delimiter outside ASCII, no language, or pages without rows. -/
def fault? (s : Settings) : Option SettingsFault :=
  if 0x80 ≤ s.importing.delimiter.toNat then some (.delimiter s.importing.delimiter)
  else if s.schema.languages.isEmpty then some .noLanguage
  else if s.query.pageSize = 0 then some .pageSizeZero
  else none

def validate (s : Settings) : Except Error Unit :=
  match s.fault? with
  | some fault => .error (.settings fault)
  | none => .ok ()

end Settings

end Datasheet
