import Datasheet.Proofs.Delimited.Bytes
import Datasheet.Proofs.Toml.Lines
import Datasheet.Settings.Text

/-! # Exchanging settings as text

Settings that can be written and have no fault are read back from what is written, whatever the delimiter, the languages
and the table name are made of.
-/

namespace Datasheet

namespace Settings

open Toml

/-! ## Groups as they are written -/

variable {depth fuel : Nat} {rest : List Char}

theorem skipLoose_writeString (s rest : List Char) : skipLoose false (writeString s ++ rest) = writeString s ++ rest := by
  obtain ⟨quote, cs, kind, written⟩ := exists_writeString s
  rw [written, List.cons_append]
  rcases kind with rfl | rfl <;> rfl

theorem readElements?_string (s : List Char) (enough : (writeString s).length ≤ fuel) :
    readElements? (fuel + 1) depth (writeString s ++ ',' :: rest) =
      (readElements? fuel depth rest).map (fun (vs, remaining) => (.string s :: vs, remaining)) ∧
    readElements? (fuel + 1) depth (writeString s ++ ']' :: rest) = some ([.string s], rest) := by
  have read : ∀ {rest}, EndsValue rest → readValue? fuel depth (writeString s ++ rest) = some (.string s, rest) :=
    fun ends => (readsAs_string depth s).read fuel _ enough ends
  have comma : skipLoose false (',' :: rest) = ',' :: rest := rfl
  have bracket : skipLoose false (']' :: rest) = ']' :: rest := rfl
  have opens : ∀ rest tail, skipLoose false (writeString s ++ rest) ≠ ']' :: tail := by
    intro rest tail same
    obtain ⟨quote, cs, kind, written⟩ := exists_writeString s
    rw [skipLoose_writeString, written] at same
    rcases kind with rfl | rfl <;> cases same
  constructor
  · rw [readElements?]
    split
    · next same => exact absurd same (opens _ _)
    · simp only [skipLoose_writeString, read (.element rest), comma, Option.bind_eq_bind, Option.bind_some]
      cases readElements? fuel depth rest <;> rfl
  · rw [readElements?]
    split
    · next same => exact absurd same (opens _ _)
    · simp only [skipLoose_writeString, read (.array rest), bracket, Option.bind_eq_bind, Option.bind_some]

/-- Strings as elements with a line each. -/
def elementLines (strings : List String) : List Char :=
  strings.flatMap fun s => "\n    ".toList ++ writeString s.toList ++ [',']

theorem elementLines_cons (s : String) (strings : List String) :
    elementLines (s :: strings) = "\n    ".toList ++ (writeString s.toList ++ ',' :: elementLines strings) := by
  simp [elementLines]

theorem readElements?_indent (cs : List Char) :
    readElements? fuel depth ("\n    ".toList ++ cs) = readElements? fuel depth cs := by
  cases fuel with
  | zero => rfl
  | succ fuel => rfl

theorem readElements?_lines (strings : List String) (enough : (elementLines strings).length < fuel) :
    readElements? fuel depth (elementLines strings ++ '\n' :: ']' :: rest) =
      some (strings.map fun s => .string s.toList, rest) := by
  induction strings generalizing fuel with
  | nil =>
      obtain ⟨fuel, rfl⟩ := Nat.exists_eq_add_one.2 enough
      rfl
  | cons s strings ih =>
      obtain ⟨fuel, rfl⟩ := Nat.exists_eq_add_one.2 (Nat.zero_lt_of_lt enough)
      rw [elementLines_cons, List.length_append, List.length_append, List.length_cons] at enough
      rw [elementLines_cons, List.append_assoc, readElements?_indent, List.append_assoc, List.cons_append,
        (readElements?_string s.toList (by omega)).1, ih (by omega)]
      rfl

theorem readsAs_strings (depth : Nat) (strings : List String) :
    ReadsAs (depth + 1) (writeStrings strings) (.array (strings.map fun s => .string s.toList)) := by
  have opened : ∀ fuel cs, readValue? (fuel + 1) (depth + 1) ('[' :: cs) =
      (readElements? fuel depth cs).map fun (elements, after) => (.array elements, after) := by
    intro fuel cs
    rw [readValue?]
  rcases strings with _ | ⟨s, _ | ⟨t, strings⟩⟩
  · refine ⟨⟨'[', [']'], rfl, rfl⟩, ?_⟩
    intro fuel rest enough ends
    rw [writeStrings, List.length_cons, List.length_singleton] at enough
    obtain ⟨fuel, rfl⟩ : ∃ k, fuel = k + 2 := ⟨fuel - 2, by omega⟩
    exact opened (fuel + 1) _
  · refine ⟨⟨'[', _, rfl, rfl⟩, ?_⟩
    intro fuel rest enough ends
    rw [writeStrings, List.length_cons, List.length_append, List.length_singleton] at enough
    obtain ⟨fuel, rfl⟩ : ∃ k, fuel = k + 2 := ⟨fuel - 2, by omega⟩
    rw [writeStrings, List.cons_append, List.append_assoc, List.singleton_append, opened,
      (readElements?_string s.toList (by omega)).2]
    rfl
  · have text : writeStrings (s :: t :: strings) = '[' :: (elementLines (s :: t :: strings) ++ ['\n', ']']) := rfl
    refine ⟨⟨'[', _, text, rfl⟩, ?_⟩
    intro fuel rest enough ends
    simp only [text, List.length_cons, List.length_append, List.length_nil] at enough
    obtain ⟨fuel, rfl⟩ : ∃ k, fuel = k + 1 := ⟨fuel - 1, by omega⟩
    have lines : readElements? fuel depth (elementLines (s :: t :: strings) ++ '\n' :: ']' :: rest) = _ :=
      readElements?_lines (s :: t :: strings) (by omega)
    rw [text, List.cons_append, List.append_assoc, opened]
    exact congrArg (Option.map _) lines

/-- The texts of members, and what they are read as. -/
inductive WritesMembers : List (List Char) → Pairs → Prop where
  | nil : WritesMembers [] []
  | cons {name : String} {text : List Char} {v : Value} {texts : List (List Char)} {pairs : Pairs} (bare : IsBare name)
      (reads : ReadsAs (depthLimit - 1) text v) (later : WritesMembers texts pairs) :
      WritesMembers (writeMember name text :: texts) ((name, v) :: pairs)

/-- The texts of groups, and what they are read as. -/
inductive WritesGroups : List (List Char) → Tables → Prop where
  | nil : WritesGroups [] []
  | cons {name : String} {texts : List (List Char)} {pairs : Pairs} {groups : List (List Char)} {tables : Tables}
      (bare : IsBare name) (members : WritesMembers texts pairs) (later : WritesGroups groups tables) :
      WritesGroups (writeGroup name texts :: groups) ((name, pairs) :: tables)

variable {lines : List Line}

theorem WritesMembers.readsLines {texts : List (List Char)} {pairs : Pairs} (written : WritesMembers texts pairs)
    (below : ReadsLines rest lines) :
    ReadsLines (texts.flatten ++ rest) ((pairLines pairs).map (fun (key, v) => Line.pair key v) ++ lines) := by
  induction written with
  | nil => exact below
  | @cons name text v texts pairs bare reads later ih =>
      have line := ReadsLines.pair ih bare reads
      simpa [writeMember, pairLines_cons] using line

theorem WritesGroups.readsLines {groups : List (List Char)} {tables : Tables} (written : WritesGroups groups tables) :
    ReadsLines (Text.joinWith ['\n'] groups) (tableLines tables) := by
  induction written with
  | nil => exact readsLines_nil
  | @cons name texts pairs groups tables bare members later ih =>
      have group : ∀ {rest lines}, ReadsLines rest lines → ReadsLines (writeGroup name texts ++ rest)
          ((.header (.table (topKey name)) :: (pairLines pairs).map fun (key, v) => Line.pair key v) ++ lines) := by
        intro rest lines below
        have header := ReadsLines.header (members.readsLines below) bare
        simpa [writeGroup] using header
      cases later with
      | nil => simpa [Text.joinWith, tableLines] using group readsLines_nil
      | cons bare' members' later' =>
          have below := group ih.skip
          simpa [Text.joinWith, tableLines] using below

/-! ## Settings -/

theorem readsAs_writeBool (depth : Nat) (b : Bool) : ReadsAs depth (writeBool b) (.boolean b) := by
  cases b
  · exact readsAs_false depth
  · exact readsAs_true depth

/-- What the groups of settings are read as. -/
def tables (s : Settings) : Tables :=
  [("import", [("delimiter", .string [s.importing.delimiter]), ("trim_cells", .boolean s.importing.trimCells)]),
   ("schema", [("max_num_different_values", .integer s.schema.maxDistinct),
     ("languages", .array (s.schema.languages.map fun language => .string language.toList))]),
   ("query", [("ignore_case", .boolean s.query.ignoreCase), ("page_size", .integer s.query.pageSize)]),
   ("sql", match s.sql.tableName with
     | some name => [("table_name", .string name.toList)]
     | none => [])]

variable {s : Settings}

theorem areDistinct_tables (s : Settings) : AreDistinct s.tables := by
  have headers : Dictionary.names s.tables = ["import", "schema", "query", "sql"] := rfl
  refine ⟨headers ▸ by decide, ?_⟩
  simp only [tables, List.forall_mem_cons]
  refine ⟨by simp [Dictionary.names], by simp [Dictionary.names], by simp [Dictionary.names], ?_, by simp⟩
  cases s.sql.tableName <;> simp [Dictionary.names]

theorem writesGroups (distinct : s.schema.maxDistinct ≤ greatestCount) (size : s.query.pageSize ≤ greatestCount) :
    WritesGroups s.groups s.tables := by
  have fits : ∀ n ≤ greatestCount, ReadsAs (depthLimit - 1) (Nat.toDigits 10 n) (.integer n) :=
    fun n small => readsAs_integer _ (Nat.lt_of_le_pred (Nat.pow_pos (by decide)) small)
  have importing : WritesMembers [writeMember "delimiter" (writeString [s.importing.delimiter]),
      writeMember "trim_cells" (writeBool s.importing.trimCells)] _ :=
    .cons (isBare_of_all rfl) (readsAs_string _ _) (.cons (isBare_of_all rfl) (readsAs_writeBool _ _) .nil)
  have schema : WritesMembers [writeMember "max_num_different_values" (Nat.toDigits 10 s.schema.maxDistinct),
      writeMember "languages" (writeStrings s.schema.languages)] _ :=
    .cons (isBare_of_all rfl) (fits _ distinct) (.cons (isBare_of_all rfl) (readsAs_strings _ _) .nil)
  have query : WritesMembers [writeMember "ignore_case" (writeBool s.query.ignoreCase),
      writeMember "page_size" (Nat.toDigits 10 s.query.pageSize)] _ :=
    .cons (isBare_of_all rfl) (readsAs_writeBool _ _) (.cons (isBare_of_all rfl) (fits _ size) .nil)
  refine .cons (isBare_of_all rfl) importing (.cons (isBare_of_all rfl) schema (.cons (isBare_of_all rfl) query
    (.cons (isBare_of_all rfl) ?_ .nil)))
  cases s.sql.tableName with
  | none => exact .nil
  | some name => exact .cons (isBare_of_all rfl) (readsAs_string _ _) .nil

theorem texts?_strings (strings : List String) :
    texts? (.array (strings.map fun s => .string s.toList)) = some strings := by
  rw [texts?]
  induction strings with
  | nil => rfl
  | cons s strings ih => simp [List.mapM_cons, text?, String.ofList_toList, ih]

section Members

variable {α : Type} {name key : String} {v : Toml.Value} {pairs : Pairs}

theorem read?_here (index : Nat) (absent : α) (decode : Toml.Value → Option α) :
    (Members.named ((name, v) :: pairs)).read? name index absent decode = decode v := by
  simp [Members.read?, Members.get?]

theorem read?_later (other : name ≠ key) (index : Nat) (absent : α) (decode : Toml.Value → Option α) :
    (Members.named ((key, v) :: pairs)).read? name index absent decode =
      (Members.named pairs).read? name index absent decode := by
  simp [Members.read?, Members.get?, List.lookup_cons, beq_eq_false_iff_ne.2 other]

end Members

theorem count?_natCast (n : Nat) : count? (.integer n) = some n := by simp [count?]

theorem importing?_table (s : ImportSettings) :
    importing? (.table [("delimiter", .string [s.delimiter]), ("trim_cells", .boolean s.trimCells)]) = some s := by
  simp [importing?, Members.ofValue?, read?_here, read?_later, char?, bool?]

theorem schema?_table (s : SchemaSettings) : schema? (.table [("max_num_different_values", .integer s.maxDistinct),
    ("languages", .array (s.languages.map fun language => .string language.toList))]) = some s := by
  simp [schema?, Members.ofValue?, read?_here, read?_later, count?_natCast, texts?_strings]

theorem query?_table (s : QuerySettings) :
    query? (.table [("ignore_case", .boolean s.ignoreCase), ("page_size", .integer s.pageSize)]) = some s := by
  simp [query?, Members.ofValue?, read?_here, read?_later, count?_natCast, bool?]

theorem sql?_table (s : SqlSettings) : sql? (.table (match s.tableName with
    | some name => [("table_name", .string name.toList)]
    | none => [])) = some s := by
  obtain ⟨_ | name⟩ := s
  · rfl
  · simp [sql?, Members.ofValue?, read?_here, text?, String.ofList_toList]

theorem ofEntries?_tables (s : Settings) :
    ofEntries? (s.tables.map fun (name, pairs) => (name, .table pairs)) = some s := by
  simp [tables, ofEntries?, read?_here, read?_later, importing?_table, schema?_table, query?_table, sql?_table]

/-- Settings without a fault come back from their text. -/
theorem ofText_groups (distinct : s.schema.maxDistinct ≤ greatestCount) (size : s.query.pageSize ≤ greatestCount)
    (valid : s.validate = .ok ()) : ofText (String.ofList (Text.joinWith ['\n'] s.groups)) = .ok s := by
  have unmarked : dropOrderMark (Text.joinWith ['\n'] s.groups) = Text.joinWith ['\n'] s.groups := rfl
  have read := read?_of_tableLines unmarked (writesGroups distinct size).readsLines (areDistinct_tables s)
  rw [ofText, String.toList_ofList, read, Option.bind_some, ofEntries?_tables]
  simp only [valid]
  rfl

/-- What has been read is without a fault. -/
theorem validate_of_ofText {text : String} (read : ofText text = .ok s) : s.validate = .ok () := by
  rw [ofText] at read
  split at read
  · cases read
  · next found _ =>
      cases valid : found.validate with
      | error fault =>
          rw [valid] at read
          cases read
      | ok _ =>
          rw [valid] at read
          cases read
          exact valid

end Settings

/-- The file holds the text, told as it is or by its bytes. -/
inductive File.Holds : File → String → Prop where
  | text (contents : String) : Holds (.text contents) contents
  | bytes (contents : String) : Holds (.bytes contents.toUTF8.data.toList) contents

theorem File.Holds.readText {file : File} {text : String} (holds : file.Holds text) : file.readText = .ok text := by
  cases holds with
  | text => rfl
  | bytes => rw [File.readText, Delimited.fromUTF8?_toUTF8]

namespace Settings

theorem ofFile_of_holds {file : File} {text : String} (holds : file.Holds text) : ofFile file = ofText text := by
  rw [ofFile, holds.readText]
  rfl

/-- Settings are without a fault and their numbers in range just where they can be written to a file that is read back as
    these settings. -/
theorem validate_iff_exists_toText_ofFile (s : Settings) :
    (s.validate = .ok () ∧ s.schema.maxDistinct ≤ greatestCount ∧ s.query.pageSize ≤ greatestCount) ↔
      ∃ text, s.toText = .ok text ∧ ∀ file : File, file.Holds text → ofFile file = .ok s := by
  constructor
  · rintro ⟨valid, distinct, size⟩
    refine ⟨_, if_pos ⟨distinct, size⟩, ?_⟩
    intro file holds
    rw [ofFile_of_holds holds]
    exact ofText_groups distinct size valid
  · rintro ⟨text, written, back⟩
    have read : ofText text = .ok s := (ofFile_of_holds (.text text)).symm.trans (back _ (.text text))
    refine ⟨validate_of_ofText read, ?_⟩
    by_contra wide
    rw [toText, if_neg wide] at written
    cases written

/-- A quote delimits, the languages are nothing, rows of quotes around a line break, and a backslash between letters, and
    the table is called by a control character. -/
def oddSettings : Settings :=
  { importing := { delimiter := '"' }, schema := { languages := ["", "\"\"\"\n'''", "a\\b"] },
    sql := { tableName := some "\x00" } }

theorem validate_iff_exists_toText_ofFile_odd :
    ∃ text, oddSettings.toText = .ok text ∧ ∀ file : File, file.Holds text → ofFile file = .ok oddSettings :=
  (validate_iff_exists_toText_ofFile oddSettings).1 ⟨rfl, by decide, by decide⟩

end Settings

end Datasheet
