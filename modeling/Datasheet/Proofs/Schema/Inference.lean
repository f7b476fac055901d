import Datasheet.Proofs.Profile.Scanning
import Datasheet.Proofs.Text.Trimming
import Datasheet.Schema

/-! # Inferred schemas

The schema of a dataset has one field for each column, in the order of the columns. Inference takes the columns one
by one; here its answer is told at once. It succeeds exactly if no two columns have one name and every column has a
readable name in every language, and each field then says what its own cells and its own wording say.
-/

namespace Datasheet

open Text

/-- In each of the languages there is a readable name that is not blank. -/
def Wording.NamesIn (w : Wording) (languages : List String) : Prop :=
  ∀ language ∈ languages,
    ∃ name, Dictionary.get? language w.readableNames = some name ∧ ∃ c ∈ name.toList, isBlank c = false

/-- The lexicon names a column in each of the languages. -/
def Lexicon.Covers (l : Lexicon) (languages : List String) (column : String) : Prop :=
  ∃ w, l.get? column = some w ∧ w.NamesIn languages

/-- A field says of a column what its cells and its wording say. -/
structure Field.Describes (f : Field) (column : String) (cells : List String) (maxDistinct : Nat) (w : Wording) :
    Prop where
  name : f.name = column
  kind : f.kind = (Profile.ofCells cells maxDistinct).kind
  distinct : f.distinct = (Profile.ofCells cells maxDistinct).distinct
  categorical : f.categorical = true ↔ f.kind = .text ∧ f.distinct ≤ maxDistinct
  mainValues : (Profile.ofCells cells maxDistinct).mainValues = if f.categorical then some f.mainValues else none
  /-- A column that is not categorical has no main values. -/
  noValues : f.categorical = false → f.mainValues = []
  readableNames : f.readableNames = w.readableNames
  synonyms : f.synonyms = w.synonyms
  key : f.key = w.key

variable {settings : SchemaSettings} {lexicon : Lexicon} {d : Dataset} {column : String} {columns : List String}

/-! ## One column -/

theorem isEmpty_trimmed_iff {s : String} : (trimmed s).isEmpty = true ↔ ∀ c ∈ s.toList, isBlank c = true := by
  rw [← trim_eq_nil_iff, trimmed, String.isEmpty_iff, ← String.toList_inj, String.toList_ofList]
  rfl

theorem Field.describes_ofProfile (column : String) (cells : List String) (maxDistinct : Nat) (w : Wording) :
    (Field.ofProfile column (Profile.ofCells cells maxDistinct) w).Describes column cells maxDistinct w := by
  have settled : (Profile.ofCells cells maxDistinct).kind.settled = (Profile.ofCells cells maxDistinct).kind :=
    Kind.settled_ofCells cells
  have kept := Profile.isSome_mainValues cells maxDistinct
  constructor
  case name | distinct | readableNames | synonyms | key => rfl
  case kind => exact settled
  case categorical => simpa only [Field.ofProfile, Profile.isCategorical, settled] using kept
  case mainValues =>
    cases values : (Profile.ofCells cells maxDistinct).mainValues <;> simp [Field.ofProfile, Profile.isCategorical, values]
  case noValues =>
    intro uncategorical
    have absent : (Profile.ofCells cells maxDistinct).mainValues = none := by
      simpa [Field.ofProfile, Profile.isCategorical] using uncategorical
    simp [Field.ofProfile, absent]

namespace Schema

theorem checkWording_eq_ok_iff {languages : List String} {w : Wording} :
    checkWording languages column w = .ok () ↔ w.NamesIn languages := by
  rw [checkWording]
  split
  next language found =>
      simp only [reduceCtorEq, false_iff]
      intro named
      obtain ⟨name, here, c, member, solid⟩ := named language (List.mem_of_find?_eq_some found)
      have blank := List.find?_some found
      rw [here] at blank
      exact absurd (isEmpty_trimmed_iff.1 blank c member) (by simp [solid])
  next unknown =>
      simp only [true_iff]
      intro language member
      have named := List.find?_eq_none.1 unknown language member
      cases here : Dictionary.get? language w.readableNames with
      | none => simp [here] at named
      | some name =>
          rw [here] at named
          refine ⟨name, rfl, ?_⟩
          simpa using mt isEmpty_trimmed_iff.2 named

/-- The field of the column at a position. -/
def fieldAt (settings : SchemaSettings) (lexicon : Lexicon) (d : Dataset) (entry : String × Nat) : Field :=
  .ofProfile entry.1 (Profile.ofCells (d.sheet.cellsAt entry.2) settings.maxDistinct) ((lexicon.get? entry.1).getD {})

@[simp] theorem name_fieldAt (entry : String × Nat) : (fieldAt settings lexicon d entry).name = entry.1 := rfl

theorem inferField_eq_ok_iff {index : Nat} {f : Field} :
    inferField settings lexicon d index column = .ok f
      ↔ lexicon.Covers settings.languages column ∧ f = fieldAt settings lexicon d (column, index) := by
  rw [inferField, Lexicon.Covers, fieldAt]
  cases lexicon.get? column with
  | none => simp
  | some w =>
      simp only [Option.some.injEq, exists_eq_left', Option.getD_some, bind_eq_ok, Except.ok.injEq]
      constructor
      · rintro ⟨⟨⟩, checked, rfl⟩
        exact ⟨checkWording_eq_ok_iff.1 checked, rfl⟩
      · rintro ⟨named, rfl⟩
        exact ⟨(), checkWording_eq_ok_iff.2 named, rfl⟩

/-! ## All columns -/

theorem add_eq_ok_iff {s s' : Schema} {f : Field} :
    s.add f = .ok s' ↔ s.hasName f.name = false ∧ s' = { s with fields := s.fields ++ [f] } := by
  rw [add]
  cases s.hasName f.name <;> simp [eq_comm]

/-- Fields are added for all columns if none of them has the name of another one or of a field that is there. -/
theorem inferFrom_eq_ok_iff {index : Nat} {s s' : Schema} :
    inferFrom settings lexicon d index columns s = .ok s'
      ↔ (columns.Nodup ∧ ∀ column ∈ columns, s.hasName column = false ∧ lexicon.Covers settings.languages column)
        ∧ s' = { s with fields := s.fields ++ (columns.zipIdx index).map (fieldAt settings lexicon d) } := by
  induction columns generalizing index s with
  | nil =>
      simp only [inferFrom, Except.ok.injEq, List.nodup_nil, List.not_mem_nil, false_implies, implies_true, and_self,
        true_and, List.zipIdx_nil, List.map_nil, List.append_nil]
      exact eq_comm
  | cons column columns ih =>
      -- The next schema has one name more, which none of the later columns may have.
      have later (f : Field) (named : f.name = column) (other : String) :
          Schema.hasName { s with fields := s.fields ++ [f] } other = false
            ↔ s.hasName other = false ∧ column ≠ other := by
        simp only [hasName, List.any_append, List.any_cons, List.any_nil, Bool.or_false, named, Bool.or_eq_false_iff,
          beq_eq_false_iff_ne]
        tauto
      rw [inferFrom, bind_eq_ok]
      constructor
      · rintro ⟨f, made, inferred⟩
        obtain ⟨t, added, inferred⟩ := bind_eq_ok.1 inferred
        obtain ⟨covered, rfl⟩ := inferField_eq_ok_iff.1 made
        obtain ⟨fresh, rfl⟩ := add_eq_ok_iff.1 added
        obtain ⟨⟨distinct, all⟩, rfl⟩ := ih.1 inferred
        have apart : ∀ other ∈ columns, s.hasName other = false ∧ column ≠ other := fun other member =>
          (later _ rfl other).1 (all other member).1
        refine ⟨⟨List.nodup_cons.2 ⟨fun member => (apart column member).2 rfl, distinct⟩, ?_⟩, by simp⟩
        refine List.forall_mem_cons.2 ⟨⟨fresh, covered⟩, fun other member => ?_⟩
        exact ⟨(apart other member).1, (all other member).2⟩
      · rintro ⟨⟨distinct, all⟩, rfl⟩
        obtain ⟨absent, distinct⟩ := List.nodup_cons.1 distinct
        obtain ⟨⟨fresh, covered⟩, all⟩ := List.forall_mem_cons.1 all
        refine ⟨_, inferField_eq_ok_iff.2 ⟨covered, rfl⟩, bind_eq_ok.2 ⟨_, add_eq_ok_iff.2 ⟨fresh, rfl⟩, ?_⟩⟩
        refine ih.2 ⟨⟨distinct, fun other member => ?_⟩, by simp⟩
        have apart : column ≠ other := fun same => absent (same ▸ member)
        exact ⟨(later _ rfl other).2 ⟨(all other member).1, apart⟩, (all other member).2⟩

theorem inferField_eq_error {index : Nat} {e : Error} (failed : inferField settings lexicon d index column = .error e) :
    ∃ fault, e = .schema fault := by
  rw [inferField] at failed
  cases described : lexicon.get? column with
  | none =>
      rw [described] at failed
      exact ⟨_, (Except.error.inj failed).symm⟩
  | some w =>
      simp only [described] at failed
      rcases bind_eq_error.1 failed with unnamed | ⟨_, _, made⟩
      · rw [checkWording] at unnamed
        split at unnamed
        · exact ⟨_, (Except.error.inj unnamed).symm⟩
        · cases unnamed
      · cases made

theorem inferFrom_eq_error {index : Nat} {s : Schema} {e : Error}
    (failed : inferFrom settings lexicon d index columns s = .error e) : ∃ fault, e = .schema fault := by
  induction columns generalizing index s with
  | nil => cases failed
  | cons column columns ih =>
      rw [inferFrom] at failed
      rcases bind_eq_error.1 failed with made | ⟨f, _, failed⟩
      · exact inferField_eq_error made
      · rcases bind_eq_error.1 failed with added | ⟨t, _, failed⟩
        · rw [add] at added
          split at added
          · exact ⟨_, (Except.error.inj added).symm⟩
          · cases added
        · exact ih failed

/-- A schema is inferred exactly if the columns' names differ and the lexicon covers them, and it has their fields. -/
theorem infer_eq_ok_iff {s : Schema} :
    infer settings lexicon d = .ok s
      ↔ (d.sheet.header.Nodup ∧ ∀ column ∈ d.sheet.header, lexicon.Covers settings.languages column)
        ∧ s = { name := d.name, fields := d.sheet.header.zipIdx.map (fieldAt settings lexicon d) } := by
  rw [infer, inferFrom_eq_ok_iff]
  simp [hasName]

theorem infer_fieldNames {s : Schema} (inferred : infer settings lexicon d = .ok s) :
    s.fieldNames = d.sheet.header ∧ s.fieldNames.Nodup := by
  obtain ⟨⟨distinct, _⟩, rfl⟩ := infer_eq_ok_iff.1 inferred
  have names : (d.sheet.header.zipIdx.map (fieldAt settings lexicon d)).map (·.name) = d.sheet.header := by
    rw [List.map_map]
    exact List.zipIdx_map_fst 0 d.sheet.header
  have nodup : ((d.sheet.header.zipIdx.map (fieldAt settings lexicon d)).map (·.name)).Nodup := by
    rw [names]
    exact distinct
  exact ⟨names, nodup⟩

theorem cellsOf_eq_cellsAt (distinct : d.sheet.header.Nodup) {position : Nat}
    (inside : (column, position) ∈ d.sheet.header.zipIdx) : d.sheet.cellsOf column = d.sheet.cellsAt position := by
  obtain ⟨bound, here⟩ := List.getElem?_eq_some_iff.1 (List.mk_mem_zipIdx_iff_getElem?.1 inside)
  have known : d.sheet.column? column = some position := by
    rw [Sheet.column?_eq_some (here ▸ List.getElem_mem bound), ← here, distinct.idxOf_getElem]
  rw [Sheet.cellsOf, known]

theorem infer_kindOf? {s : Schema} (inferred : infer settings lexicon d = .ok s) {name : String} {kind : Kind}
    (known : s.kindOf? name = some kind) : kind = (Kind.ofCells (d.sheet.cellsOf name)).settled := by
  obtain ⟨⟨distinct, _⟩, rfl⟩ := infer_eq_ok_iff.1 inferred
  obtain ⟨f, found, rfl⟩ := Option.map_eq_some_iff.1 known
  obtain ⟨⟨column, j⟩, inside, rfl⟩ := List.mem_map.1 (List.mem_of_find?_eq_some found)
  obtain rfl : column = name := by simpa using List.find?_some found
  rw [cellsOf_eq_cellsAt distinct inside]
  rfl

/-- A field of an inferred schema is a column and says what the cells of the column say. -/
theorem infer_describes_member {s : Schema} (inferred : infer settings lexicon d = .ok s) {f : Field}
    (member : f ∈ s.fields) :
    f.name ∈ d.sheet.header ∧ ∃ w, f.Describes f.name (d.sheet.cellsOf f.name) settings.maxDistinct w := by
  obtain ⟨⟨distinct, _⟩, rfl⟩ := infer_eq_ok_iff.1 inferred
  obtain ⟨⟨column, j⟩, inside, rfl⟩ := List.mem_map.1 member
  refine ⟨List.mem_of_getElem? (List.mk_mem_zipIdx_iff_getElem?.1 inside), (lexicon.get? column).getD {}, ?_⟩
  rw [name_fieldAt, cellsOf_eq_cellsAt distinct inside]
  exact Field.describes_ofProfile column _ settings.maxDistinct _

theorem get?_foldl_put {fields : List Field} (distinct : (fields.map (·.name)).Nodup) (kinds : Dictionary Kind)
    (name : String) :
    Dictionary.get? name (fields.foldl (fun kinds f => Dictionary.put f.name f.kind kinds) kinds)
      = ((fields.find? (·.name == name)).map (·.kind)).or (Dictionary.get? name kinds) := by
  induction fields generalizing kinds with
  | nil => rfl
  | cons f fields ih =>
      obtain ⟨fresh, rest⟩ := List.nodup_cons.1 distinct
      rw [List.foldl_cons, ih rest, Dictionary.get?_put]
      by_cases same : f.name = name
      · have absent : fields.find? (·.name == name) = none := by
          rw [List.find?_eq_none]
          intro g member found
          have named : g.name = f.name := (by simpa using found : g.name = name).trans same.symm
          exact fresh (List.mem_map.2 ⟨g, member, named⟩)
        simp [same, absent]
      · simp [same, Ne.symm same]

end Schema

/-! ## Columns that are called by their own names -/

/-- The wording that calls a column by its own name in each of the languages. -/
def Wording.ofName (languages : List String) (name : String) : Wording :=
  languages.foldl (fun w language => w.withReadableName language name) {}

theorem Wording.get?_ofName (languages : List String) (language name : String) :
    Dictionary.get? language (ofName languages name).readableNames = if language ∈ languages then some name else none := by
  have names : (ofName languages name).readableNames
      = languages.foldl (fun names other => Dictionary.put other name names) [] :=
    (List.foldl_hom Wording.readableNames fun _ _ => rfl).symm
  rw [names, Dictionary.get?_foldl_put fun _ => name]
  rfl

namespace Lexicon

theorem get?_ofColumns (columns languages : List String) (column : String) :
    (ofColumns columns languages).get? column = if column ∈ columns then some (.ofName languages column) else none := by
  have entries : (ofColumns columns languages).entries
      = columns.foldl (fun entries other => Dictionary.put other (Wording.ofName languages other) entries) [] :=
    (List.foldl_hom Lexicon.entries fun _ _ => rfl).symm
  rw [get?, entries, Dictionary.get?_foldl_put (Wording.ofName languages)]
  rfl

theorem covers_ofColumns (member : column ∈ columns) (solid : ∃ c ∈ column.toList, isBlank c = false)
    (languages : List String) : (ofColumns columns languages).Covers languages column := by
  refine ⟨.ofName languages column, by rw [get?_ofColumns, if_pos member], fun language inside => ?_⟩
  exact ⟨column, by rw [Wording.get?_ofName, if_pos inside], solid⟩

end Lexicon

namespace Schema

/-- A schema is inferred exactly if no two columns have one name and the lexicon has a readable name that is not blank for
    every column in every language; nothing but this makes inference fail. The fields are then the columns in their
    order, and each of them says what the cells at its own position and its own wording say. So a lexicon of the columns'
    own names will do wherever they differ and none is blank. -/
theorem infer_describes_columns (settings : SchemaSettings) (lexicon : Lexicon) (d : Dataset) :
    ((∃ s, infer settings lexicon d = .ok s)
      ↔ d.sheet.header.Nodup ∧ ∀ column ∈ d.sheet.header, lexicon.Covers settings.languages column) ∧
    (∀ e, infer settings lexicon d = .error e → ∃ fault, e = .schema fault) ∧
    (∀ s, infer settings lexicon d = .ok s → s.name = d.name ∧ s.fieldNames = d.sheet.header ∧ s.deleted = [] ∧
      ∀ (index : Nat) (column : String), d.sheet.header[index]? = some column →
        ∃ (f : Field) (w : Wording), s.fields[index]? = some f ∧ lexicon.get? column = some w ∧
          f.Describes column (d.sheet.rows.map (·.getD index "")) settings.maxDistinct w) ∧
    (d.sheet.header.Nodup → (∀ column ∈ d.sheet.header, ∃ c ∈ column.toList, isBlank c = false) →
      ∃ s, infer settings (.ofColumns d.sheet.header settings.languages) d = .ok s) := by
  refine ⟨?_, fun e => inferFrom_eq_error, ?_, ?_⟩
  · simp [infer_eq_ok_iff]
  · intro s inferred
    refine ⟨?_, (infer_fieldNames inferred).1, ?_⟩
    · rw [(infer_eq_ok_iff.1 inferred).2]
    · obtain ⟨⟨_, covered⟩, rfl⟩ := infer_eq_ok_iff.1 inferred
      refine ⟨rfl, fun index column here => ?_⟩
      obtain ⟨w, described, _⟩ := covered column (List.mem_of_getElem? here)
      refine ⟨fieldAt settings lexicon d (column, index), w, by simp [here], described, ?_⟩
      rw [fieldAt, described, Sheet.cellsAt_eq_map (List.getElem?_eq_some_iff.1 here).1]
      exact Field.describes_ofProfile column _ settings.maxDistinct w
  · intro distinct solid
    refine ⟨_, infer_eq_ok_iff.2 ⟨⟨distinct, fun column member => ?_⟩, rfl⟩⟩
    exact Lexicon.covers_ofColumns member (solid column member) settings.languages

/-- Payments by department, some of them not filled. -/
def payments : Dataset := ⟨"payments", ⟨["dept", "paid"], [["Sales", "10"], ["", "2e1"], ["Sales", ""]], by decide⟩⟩

/-- The columns' own names will do in two languages, and each field is told from its own cells. -/
theorem infer_describes_columns_payments :
    let settings : SchemaSettings := { maxDistinct := 2, languages := ["en", "es"] }
    ∃ s dept paid, infer settings (.ofColumns ["dept", "paid"] ["en", "es"]) payments = .ok s ∧
      s.fieldNames = ["dept", "paid"] ∧
      (s.fields[0]? = some dept ∧ dept.kind = .text ∧ dept.distinct = 2 ∧ dept.categorical = true) ∧
      (s.fields[1]? = some paid ∧ paid.kind = .number ∧ paid.distinct = 3 ∧ paid.mainValues = []) := by
  intro settings
  obtain ⟨_, _, told, enough⟩ := infer_describes_columns settings (.ofColumns ["dept", "paid"] ["en", "es"]) payments
  obtain ⟨s, inferred⟩ := enough (by decide) (by simp [payments, isBlank])
  obtain ⟨_, names, _, fields⟩ := told s inferred
  obtain ⟨dept, _, first, _, departments⟩ := fields 0 "dept" rfl
  obtain ⟨paid, _, second, _, amounts⟩ := fields 1 "paid" rfl
  have text : dept.kind = .text := departments.kind.trans (by decide +kernel)
  have two : dept.distinct = 2 := departments.distinct.trans (by decide)
  have number : paid.kind = .number := amounts.kind.trans (by decide +kernel)
  have plain : paid.categorical = false := by
    rw [← Bool.not_eq_true, amounts.categorical, number]
    simp
  exact ⟨s, dept, paid, inferred, names, ⟨first, text, two, departments.categorical.2 ⟨text, two.le⟩⟩,
    second, number, amounts.distinct.trans (by decide), amounts.noValues plain⟩

end Schema

end Datasheet
