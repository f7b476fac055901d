import Datasheet.Proofs.Text.Collections
import Datasheet.Proofs.Toml.Values

/-! # Lines and the tables they build

A header with a bare name opens a table, and a bare name with a value adds an entry to it. Headers with distinct names
over entries with distinct names build one table of tables, in the order of the text.
-/

namespace Datasheet.Toml

/-! ## Keys -/

/-- A name that needs no quotes. -/
structure IsBare (name : String) : Prop where
  nonempty : name.toList ≠ []
  bare : ∀ c ∈ name.toList, isBareChar c = true

/-- The key of an entry at the top of its table. -/
def topKey (name : String) : Key := ⟨[], name⟩

variable {name : String} {rest : List Char}

theorem IsBare.cons (bare : IsBare name) : ∃ c cs, name.toList = c :: cs ∧ isBareChar c = true := by
  cases written : name.toList with
  | nil => exact absurd written bare.nonempty
  | cons c cs => exact ⟨c, cs, rfl, bare.bare c (written ▸ List.mem_cons_self)⟩

theorem isBare_of_all (all : (!name.toList.isEmpty && name.toList.all isBareChar) = true) : IsBare name := by
  obtain ⟨nonempty, bare⟩ := Bool.and_eq_true_iff.1 all
  exact ⟨by simpa using nonempty, List.all_eq_true.1 bare⟩

theorem isBlank_of_isBareChar {c : Char} (bare : isBareChar c = true) : isBlank c = false := by
  have noSpace : c ≠ ' ' := ne_of_class bare rfl
  have noTab : c ≠ '\t' := ne_of_class bare rfl
  simp [isBlank, noSpace, noTab]

theorem skipBlanks_of_solid {c : Char} (solid : isBlank c = false) (cs : List Char) : skipBlanks (c :: cs) = c :: cs :=
  List.dropWhile_cons_of_neg (by simp [solid])

theorem readName?_bare (bare : IsBare name) {mark : Char} (ends : isBareChar mark = false) (rest : List Char) :
    readName? (name.toList ++ mark :: rest) = some (name, mark :: rest) := by
  have word : (name.toList ++ mark :: rest).span isBareChar = (name.toList, mark :: rest) := by
    rw [List.span_eq_takeWhile_dropWhile, List.takeWhile_append_of_pos bare.bare, List.dropWhile_append_of_pos bare.bare,
      List.takeWhile_cons_of_neg (by simp [ends]), List.dropWhile_cons_of_neg (by simp [ends]), List.append_nil]
  obtain ⟨c, cs, written, first⟩ := bare.cons
  have unquoted : readShort? (name.toList ++ mark :: rest) = none := by
    rw [written, List.cons_append]
    unfold readShort?
    split
    · next same => exact absurd (List.cons.inj same).1 (ne_of_class first rfl)
    · next same => exact absurd (List.cons.inj same).1 (ne_of_class first rfl)
    · rfl
  rw [readName?, unquoted, word, written]
  simp only [← written, String.ofList_toList]

theorem readKey?_bare (bare : IsBare name) {mark : Char} (ends : isBareChar mark = false) {after : Char} {tail : List Char}
    (last : skipBlanks (mark :: rest) = after :: tail) (noPoint : after ≠ '.') :
    readKey? (name.toList ++ mark :: rest) = some (topKey name, after :: tail) := by
  obtain ⟨c, cs, written, first⟩ := bare.cons
  have solid : skipBlanks (name.toList ++ mark :: rest) = name.toList ++ mark :: rest := by
    rw [written, List.cons_append]
    exact skipBlanks_of_solid (isBlank_of_isBareChar first) _
  have names : ∀ fuel, readNames? (fuel + 1) (name.toList ++ mark :: rest) = some ([name], after :: tail) := by
    intro fuel
    rw [readNames?, solid, readName?_bare bare ends]
    simp only [Option.bind_eq_bind, Option.bind_some, last]
    split
    · next same => exact absurd (List.cons.inj same).1 noPoint
    · rfl
  rw [readKey?, names]
  rfl

/-! ## Lines -/

theorem afterLine?_break (rest : List Char) : afterLine? ('\n' :: rest) = some rest := rfl

theorem readLine?_header (bare : IsBare name) (rest : List Char) :
    readLine? ('[' :: (name.toList ++ ']' :: '\n' :: rest)) = some (.header (.table (topKey name)), rest) := by
  have key : readKey? (name.toList ++ ']' :: '\n' :: rest) = some (topKey name, ']' :: '\n' :: rest) :=
    readKey?_bare bare (by decide) (skipBlanks_of_solid (by decide) _) (by decide)
  have header : readHeader? [']'] (name.toList ++ ']' :: '\n' :: rest) = some (topKey name, rest) := by
    rw [readHeader?, key]
    rfl
  obtain ⟨c, cs, written, first⟩ := bare.cons
  have single : c ≠ '[' := ne_of_class first rfl
  rw [written, List.cons_append] at header ⊢
  rw [readLine?, header]
  · rfl
  · intro _ same
    exact single (List.cons.inj same).1

theorem readLine?_pair (bare : IsBare name) {text : List Char} {v : Value} (reads : ReadsAs (depthLimit - 1) text v)
    (rest : List Char) :
    readLine? (name.toList ++ ' ' :: '=' :: ' ' :: (text ++ '\n' :: rest)) = some (.pair (topKey name) v, rest) := by
  have key : readKey? (name.toList ++ ' ' :: '=' :: ' ' :: (text ++ '\n' :: rest)) =
      some (topKey name, '=' :: ' ' :: (text ++ '\n' :: rest)) := readKey?_bare bare (by decide) rfl (by decide)
  have value : ∀ fuel, text.length ≤ fuel → readValue? fuel (depthLimit - 1) (skipBlanks (' ' :: (text ++ '\n' :: rest))) =
      some (v, '\n' :: rest) := by
    intro fuel enough
    obtain ⟨c, cs, written, solid⟩ := reads.starts
    have stripped : skipBlanks (' ' :: (text ++ '\n' :: rest)) = text ++ '\n' :: rest := by
      rw [written, List.cons_append]
      exact (List.dropWhile_cons_of_pos rfl).trans (skipBlanks_of_solid solid _)
    rw [stripped]
    exact reads.read fuel ('\n' :: rest) enough (.line rest)
  obtain ⟨c, cs, written, first⟩ := bare.cons
  have noHeader : c ≠ '[' := ne_of_class first rfl
  have enough : text.length ≤ 2 * (name.toList ++ ' ' :: '=' :: ' ' :: (text ++ '\n' :: rest)).length + 2 := by
    simp only [List.length_append, List.length_cons]
    omega
  rw [written, List.cons_append] at key enough ⊢
  rw [readLine?]
  · simp only [key, value _ enough, Option.bind_eq_bind, Option.bind_some, afterLine?_break]
  · exact fun _ same => absurd (List.cons.inj same).1 noHeader
  · exact fun _ same => absurd (List.cons.inj same).1 noHeader

/-- A line that starts with a bare character or a bracket is read before the lines below it. -/
theorem readLines?_cons {c : Char} {cs after : List Char} {line : Line} (starts : isBareChar c = true ∨ c = '[')
    (read : readLine? (c :: cs) = some (line, after)) (fuel : Nat) :
    readLines? (fuel + 1) (c :: cs) = (readLines? fuel after).map (line :: ·) := by
  have solid : isBlank c = false := by
    rcases starts with bare | rfl
    · exact isBlank_of_isBareChar bare
    · decide
  have other : c ≠ '#' ∧ c ≠ '\n' ∧ c ≠ '\r' := by
    rcases starts with bare | rfl
    · exact ⟨ne_of_class bare rfl, ne_of_class bare rfl, ne_of_class bare rfl⟩
    · decide
  have goesOn : afterLine? (c :: cs) = none := by
    rw [afterLine?, skipBlanks_of_solid solid]
    split
    · next same => exact absurd (List.cons.inj same).1 other.1
    · exact afterBreak?_of_ne other.2.1 other.2.2 cs
  rw [readLines?, skipBlanks_of_solid solid]
  simp only [goesOn, read, Option.bind_eq_bind, Option.bind_some]
  cases readLines? fuel after <;> rfl

/-- The text is read as these lines, with a round for each character and one more. -/
def ReadsLines (text : List Char) (lines : List Line) : Prop :=
  ∀ fuel, text.length < fuel → readLines? fuel text = some lines

variable {lines : List Line}

theorem readsLines_nil : ReadsLines [] [] := by
  intro fuel enough
  obtain ⟨fuel, rfl⟩ := Nat.exists_eq_add_one.2 enough
  rfl

theorem ReadsLines.skip (below : ReadsLines rest lines) : ReadsLines ('\n' :: rest) lines := by
  intro fuel enough
  obtain ⟨fuel, rfl⟩ := Nat.exists_eq_add_one.2 (Nat.zero_lt_of_lt enough)
  exact below fuel (Nat.lt_of_succ_lt_succ enough)

theorem ReadsLines.line {c : Char} {cs : List Char} {line : Line} (below : ReadsLines rest lines)
    (starts : isBareChar c = true ∨ c = '[') (shorter : rest.length ≤ cs.length)
    (read : readLine? (c :: cs) = some (line, rest)) : ReadsLines (c :: cs) (line :: lines) := by
  intro fuel enough
  obtain ⟨fuel, rfl⟩ := Nat.exists_eq_add_one.2 (Nat.zero_lt_of_lt enough)
  have room : rest.length < fuel := Nat.lt_of_le_of_lt shorter (Nat.lt_of_succ_lt_succ enough)
  rw [readLines?_cons starts read, below fuel room]
  rfl

theorem ReadsLines.header (below : ReadsLines rest lines) (bare : IsBare name) :
    ReadsLines ('[' :: (name.toList ++ ']' :: '\n' :: rest)) (.header (.table (topKey name)) :: lines) := by
  apply below.line (.inr rfl) _ (readLine?_header bare rest)
  simp only [List.length_append, List.length_cons]
  omega

theorem ReadsLines.pair (below : ReadsLines rest lines) (bare : IsBare name) {text : List Char} {v : Value}
    (reads : ReadsAs (depthLimit - 1) text v) :
    ReadsLines (name.toList ++ ' ' :: '=' :: ' ' :: (text ++ '\n' :: rest)) (.pair (topKey name) v :: lines) := by
  have read := readLine?_pair bare reads rest
  obtain ⟨c, cs, written, first⟩ := bare.cons
  rw [written, List.cons_append] at read ⊢
  apply below.line (.inl first) _ read
  simp only [List.length_append, List.length_cons]
  omega

/-! ## Tables -/

theorem update?_of_not_mem {entries : Entries} (fresh : name ∉ Dictionary.names entries)
    (change : Option Item → Option Item) :
    Item.update? name change entries = (change none).map fun item => entries ++ [(name, item)] := by
  induction entries with
  | nil => rfl
  | cons entry entries ih =>
      obtain ⟨other, item⟩ := entry
      obtain ⟨elsewhere, fresh⟩ := not_or.1 (mt List.mem_cons.2 fresh)
      rw [Item.update?, if_neg (Ne.symm elsewhere), ih fresh]
      cases change none <;> rfl

/-- Values by name. -/
abbrev Pairs := List (String × Value)

variable {pairs : Pairs} {entries : Entries}

/-- The lines of pairs, without what separates them. -/
def pairLines (pairs : Pairs) : List (Key × Value) := pairs.map fun (name, v) => (topKey name, v)

/-- The entries that stand for values. -/
def valueEntries (pairs : Pairs) : Entries := pairs.map fun (name, v) => (name, .value v)

theorem pairLines_cons (name : String) (v : Value) (pairs : Pairs) :
    pairLines ((name, v) :: pairs) = (topKey name, v) :: pairLines pairs := rfl

theorem valueEntries_cons (name : String) (v : Value) (pairs : Pairs) :
    valueEntries ((name, v) :: pairs) = (name, .value v) :: valueEntries pairs := rfl

theorem entriesOf?_cons (key : Key) (v : Value) (lines : List (Key × Value)) (entries : Entries) :
    entriesOf? ((key, v) :: lines) entries = (Item.put? key.name v key.parents entries).bind (entriesOf? lines) := rfl

theorem entriesOf?_pairLines (distinct : (Dictionary.names entries ++ Dictionary.names pairs).Nodup) :
    entriesOf? (pairLines pairs) entries = some (entries ++ valueEntries pairs) := by
  induction pairs generalizing entries with
  | nil => exact congrArg some (List.append_nil entries).symm
  | cons pair pairs ih =>
      obtain ⟨name, v⟩ := pair
      have fresh : name ∉ Dictionary.names entries :=
        fun known => List.disjoint_of_nodup_append distinct known List.mem_cons_self
      have put : Item.put? name v [] entries = some (entries ++ [(name, .value v)]) := update?_of_not_mem fresh _
      have later : (Dictionary.names (entries ++ [(name, Item.value v)]) ++ Dictionary.names pairs).Nodup := by
        simpa [Dictionary.names] using distinct
      rw [pairLines_cons, entriesOf?_cons, topKey, put, Option.bind_some, ih later, valueEntries_cons, List.append_assoc,
        List.singleton_append]

/-- Pairs by the name of their table. -/
abbrev Tables := List (String × Pairs)

variable {tables : Tables}

/-- The names of the tables are distinct, and so are the names in each table. -/
structure AreDistinct (tables : Tables) : Prop where
  headers : (Dictionary.names tables).Nodup
  keys : ∀ table ∈ tables, (Dictionary.names table.2).Nodup

/-- The lines of tables, each with its header. -/
def tableLines (tables : Tables) : List Line :=
  tables.flatMap fun (name, pairs) => .header (.table (topKey name)) :: (pairLines pairs).map fun (key, v) => .pair key v

def tableEntries (tables : Tables) : Entries := tables.map fun (name, pairs) => (name, .table .header (valueEntries pairs))

theorem sections_pairs (lines : List Line) (later : List (Key × Value)) :
    sections (later.map (fun (key, v) => Line.pair key v) ++ lines) =
      (later ++ (sections lines).1, (sections lines).2) := by
  induction later with
  | nil => rfl
  | cons pair later ih =>
      obtain ⟨key, v⟩ := pair
      rw [List.map_cons, List.cons_append, sections, ih]
      rfl

theorem sections_tableLines (tables : Tables) : sections (tableLines tables) =
    ([], tables.map fun (name, pairs) => (.table (topKey name), pairLines pairs)) := by
  induction tables with
  | nil => rfl
  | cons table tables ih =>
      obtain ⟨name, pairs⟩ := table
      rw [tableLines, List.flatMap_cons, ← tableLines, List.cons_append, sections, sections_pairs, ih, List.append_nil]
      rfl

theorem addSection?_fresh (fresh : name ∉ Dictionary.names entries) (distinct : (Dictionary.names pairs).Nodup) :
    addSection? entries (.table (topKey name), pairLines pairs) =
      some (entries ++ [(name, .table .header (valueEntries pairs))]) := by
  have filled : entriesOf? (pairLines pairs) [] = some (valueEntries pairs) := entriesOf?_pairLines distinct
  rw [addSection?, topKey, Item.reach?, Item.openTable?]
  refine (update?_of_not_mem fresh _).trans ?_
  rw [filled]
  rfl

theorem addSections (distinct : (Dictionary.names entries ++ Dictionary.names tables).Nodup)
    (each : ∀ table ∈ tables, (Dictionary.names table.2).Nodup) :
    (tables.map fun (name, pairs) => (Header.table (topKey name), pairLines pairs)).foldlM addSection? entries =
      some (entries ++ tableEntries tables) := by
  induction tables generalizing entries with
  | nil => exact congrArg some (List.append_nil entries).symm
  | cons table tables ih =>
      obtain ⟨name, pairs⟩ := table
      obtain ⟨here, each⟩ := List.forall_mem_cons.1 each
      have fresh : name ∉ Dictionary.names entries :=
        fun known => List.disjoint_of_nodup_append distinct known List.mem_cons_self
      have later : (Dictionary.names (entries ++ [(name, Item.table .header (valueEntries pairs))]) ++
          Dictionary.names tables).Nodup := by
        simpa [Dictionary.names] using distinct
      rw [List.map_cons, List.foldlM_cons, addSection?_fresh fresh here, Option.bind_eq_bind, Option.bind_some,
        ih later each, List.append_assoc]
      rfl

theorem finishedEntries_valueEntries (pairs : Pairs) : Item.finishedEntries (valueEntries pairs) = pairs := by
  induction pairs with
  | nil => rfl
  | cons pair pairs ih => rw [valueEntries_cons, Item.finishedEntries, Item.finished, ih]

theorem finishedEntries_tableEntries (tables : Tables) :
    Item.finishedEntries (tableEntries tables) = tables.map fun (name, pairs) => (name, .table pairs) := by
  induction tables with
  | nil => rfl
  | cons table tables ih =>
      obtain ⟨name, pairs⟩ := table
      rw [tableEntries, List.map_cons, ← tableEntries, Item.finishedEntries, Item.finished, finishedEntries_valueEntries, ih]
      rfl

/-- The lines of tables with distinct names are read as these tables. -/
theorem read?_of_tableLines {text : List Char} (unmarked : dropOrderMark text = text)
    (lines : ReadsLines text (tableLines tables)) (distinct : AreDistinct tables) :
    read? text = some (tables.map fun (name, pairs) => (name, .table pairs)) := by
  have added : _ = some ([] ++ tableEntries tables) := addSections distinct.headers distinct.keys
  rw [read?, unmarked, lines _ (Nat.lt_succ_self _)]
  simp only [Option.bind_eq_bind, Option.bind_some, sections_tableLines, entriesOf?, List.foldlM_nil]
  rw [Option.pure_def, Option.bind_some, added]
  simp only [Option.bind_some, List.nil_append, finishedEntries_tableEntries]

end Datasheet.Toml
