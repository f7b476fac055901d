import Datasheet.Proofs.Schema.Inference
import Datasheet.Proofs.Selection.Meaning
import Datasheet.Proofs.Sql.Building

/-! # Filters that are refused

A filter is checked twice, when it is offered and when it is applied, and selections and builders of queries do so each on
their own. They refuse the same drafts, keep the same filters of the others, and stop at the same filter if one of them
cannot be applied. A builder that knows the kinds of its fields also refuses operators for other kinds.
-/

namespace Datasheet

namespace Filter

/-- The filter that a draft stands for, if its literal names an operator. -/
def Draft.filter? (draft : Draft) : Option Filter :=
  (Operator.read? draft.literal).map fun operator => ⟨draft.field, operator, draft.value⟩

theorem parse_eq (draft : Draft) : parse draft.field draft.literal draft.value =
    match draft.filter? with
    | some f => .ok f
    | none => .error (.unknownOperator draft.literal) := by
  rw [parse, Draft.filter?]
  cases Operator.read? draft.literal <;> rfl

theorem foldl_addTo (filters : List Filter) : filters.foldl (fun known f => f.addTo known) [] = filters.eraseDups := by
  induction filters using List.reverseRecOn with
  | nil => rfl
  | append_singleton filters f ih =>
      rw [List.foldl_append, ih, List.eraseDups_append, List.foldl_cons, List.foldl_nil, addTo]
      by_cases known : f ∈ filters
      · simp [known, List.removeAll]
      · simp [known, List.removeAll, List.eraseDups_cons]

/-- The filter asks for a column of the header and compares with a value that can be read. -/
def IsSound (header : List String) (f : Filter) : Prop := f.field ∈ header ∧ f.IsReadable

instance (header : List String) (f : Filter) : Decidable (f.IsSound header) :=
  inferInstanceAs (Decidable (f.field ∈ header ∧ f.IsReadable))

/-- The first of the filters that cannot be applied under a header. -/
def faulty? (header : List String) (filters : List Filter) : Option Filter :=
  filters.find? fun f => !decide (f.IsSound header)

/-- What a selection says of a filter that cannot be applied. -/
def fault (header : List String) (f : Filter) : Error :=
  if f.field ∈ header then .filter f.unreadable else .unknownField f.field

variable {f : Filter}

theorem faulty?_eq_none {header : List String} {filters : List Filter} :
    faulty? header filters = none ↔ ∀ f ∈ filters, f.IsSound header := by
  simp [faulty?]

theorem reading_of_isReadable (readable : f.IsReadable) : ∃ value, f.reading = .ok value := by
  obtain ⟨field, operator, value⟩ := f
  cases operator with
  | numeric op =>
      obtain ⟨x, read⟩ := Option.isSome_iff_exists.1 readable
      exact ⟨.number x, by simp [reading, read]⟩
  | text op => exact ⟨.text value, rfl⟩
  | date op =>
      obtain ⟨m, read⟩ := Option.isSome_iff_exists.1 readable
      exact ⟨.date m, by simp [reading, read]⟩

theorem reading_of_unreadable (unreadable : ¬f.IsReadable) : f.reading = .error f.unreadable := by
  obtain ⟨field, operator, value⟩ := f
  cases operator with
  | numeric op =>
      have unread : readNumber? value = none := by simpa [IsReadable, Operator.Reads] using unreadable
      simp [reading, unread]
  | text op => exact absurd trivial unreadable
  | date op =>
      have unread : DateNotation.isoOffset.read? value = none := by simpa [IsReadable, Operator.Reads] using unreadable
      simp [reading, unread]

theorem test_of_unreadable (ignoreCase : Bool) (unreadable : ¬f.IsReadable) :
    f.test ignoreCase = .error f.unreadable := by
  rw [test, reading_of_unreadable unreadable]

end Filter

open Datasheet.Filter

/-! ## Selections -/

namespace Selection

variable {ignoreCase : Bool} {sheet : Sheet} {f : Filter} {filters : List Filter}

theorem offer_eq (s : Selection) (draft : Draft) : s.offer draft =
    match draft.filter? with
    | some f => (.ok (), s.addFilter f)
    | none => (.error (.unknownOperator draft.literal), s) := by
  rw [offer, parse_eq]
  cases draft.filter? <;> rfl

/-- The selection after all drafts are offered to it in order. -/
def offered (s : Selection) (drafts : List Draft) : Selection := drafts.foldl (fun s draft => (s.offer draft).2) s

theorem offered_eq (s : Selection) (drafts : List Draft) : s.offered drafts =
    { s with filters := (drafts.filterMap Draft.filter?).foldl (fun known f => f.addTo known) s.filters } := by
  induction drafts generalizing s with
  | nil => rfl
  | cons draft drafts ih =>
      rw [offered, List.foldl_cons, ← offered, ih, offer_eq]
      cases made : draft.filter? with
      | none => rw [List.filterMap_cons_none made]
      | some f => rw [List.filterMap_cons_some made]; rfl

theorem narrow_of_faulty (fault : ¬f.IsSound sheet.header) :
    narrow ignoreCase sheet f = .error (f.fault sheet.header) := by
  rw [Filter.fault]
  by_cases known : f.field ∈ sheet.header
  · have unreadable : ¬f.IsReadable := fun readable => fault ⟨known, readable⟩
    simp only [narrow, Sheet.column?_eq_some known, test_of_unreadable ignoreCase unreadable, if_pos known]
  · simp only [narrow, Sheet.column?_eq_none known, if_neg known]

theorem foldlM_narrow_of_faulty (found : faulty? sheet.header filters = some f) :
    filters.foldlM (narrow ignoreCase) sheet = .error (f.fault sheet.header) := by
  induction filters generalizing sheet with
  | nil => exact absurd found (by simp [faulty?])
  | cons g filters ih =>
      rw [faulty?, List.find?_cons] at found
      by_cases sound : g.IsSound sheet.header
      · have rest : faulty? sheet.header filters = some f := by simpa [faulty?, sound] using found
        have later := @ih (sheet.filterRows (accepts ignoreCase sheet.header g)) rest
        rw [List.foldlM_cons, narrow_eq_ok sound.1 sound.2]
        exact later
      · obtain rfl : g = f := by simpa [sound] using found
        rw [List.foldlM_cons, narrow_of_faulty sound]
        rfl

/-- A selection of all columns fails exactly if one of its filters cannot be applied, and names the first of them. -/
theorem run_eq_error_iff {s : Selection} (all : s.columns = []) (d : Dataset) {e : Error} : s.run d = .error e ↔
    ∃ f, faulty? d.sheet.header s.filters = some f ∧ e = f.fault d.sheet.header := by
  cases found : faulty? d.sheet.header s.filters with
  | none =>
      have sound := faulty?_eq_none.1 found
      have correct : ¬s.IsFaulty d.sheet.header := by
        rintro (⟨f, member, unknown⟩ | ⟨f, member, unreadable⟩ | ⟨name, member, _⟩)
        · exact unknown (sound f member).1
        · exact unreadable (sound f member).2
        · exact absurd member (by simp [all])
      obtain ⟨answer, ran, _⟩ := run_eq_ok correct
      simp [ran]
  | some f =>
      have failed : s.run d = .error (f.fault d.sheet.header) := by
        rw [run, foldlM_narrow_of_faulty found]
        rfl
      simp [failed, eq_comm]

end Selection

/-! ## Builders of queries -/

namespace Sql.QueryBuilder

variable {b : QueryBuilder} {f : Filter}

theorem offer_eq (b : QueryBuilder) (draft : Draft) : b.offer draft =
    match draft.filter? with
    | some f => (.ok (), b.addFilter f)
    | none => (.error (.unknownOperator draft.literal), b) := by
  rw [offer, parseFilter, parse_eq]
  cases draft.filter? <;> rfl

/-- The builder after all drafts are offered to it in order. -/
def offered (b : QueryBuilder) (drafts : List Draft) : QueryBuilder := drafts.foldl (fun b draft => (b.offer draft).2) b

theorem offered_eq (b : QueryBuilder) (drafts : List Draft) : b.offered drafts =
    { b with filters := (drafts.filterMap Draft.filter?).foldl (fun known f => f.addTo known) b.filters } := by
  induction drafts generalizing b with
  | nil => rfl
  | cons draft drafts ih =>
      rw [offered, List.foldl_cons, ← offered, ih, offer_eq]
      cases made : draft.filter? with
      | none => rw [List.filterMap_cons_none made]
      | some f => rw [List.filterMap_cons_some made]; rfl

/-- What a builder says of a filter whose field it does not have or whose value cannot be read. -/
def fault (b : QueryBuilder) (f : Filter) : GenerationFault :=
  if f.field ∈ b.fields then .filter f.unreadable else .unknownField f.field b.table

theorem checkField_eq (hasFields : b.fields ≠ []) (field : String) :
    b.checkField field = if field ∈ b.fields then .ok () else .error (.unknownField field b.table) := by
  simp [checkField, hasFields]

/-- A filter passes if its field is known, its operator is for the field's kind, as far as that is known, and its value can
    be read. -/
theorem checkFilter_eq_ok_iff (hasFields : b.fields ≠ []) : b.checkFilter f = .ok () ↔
    f.IsSound b.fields ∧ ∀ kind, Dictionary.get? f.field b.kinds = some kind → kind = f.operator.domain := by
  rw [checkFilter, checkField_eq hasFields, IsSound]
  by_cases known : f.field ∈ b.fields
  · by_cases readable : f.IsReadable
    · obtain ⟨value, read⟩ := reading_of_isReadable readable
      cases declared : Dictionary.get? f.field b.kinds with
      | none => simp [known, readable, read, bind, Except.bind]
      | some kind =>
          by_cases same : kind = f.operator.domain
          · simp [known, readable, read, same, bind, Except.bind]
          · simp [known, readable, same, bind, Except.bind]
    · have refused := reading_of_unreadable readable
      cases declared : Dictionary.get? f.field b.kinds with
      | none => simp [known, readable, refused, bind, Except.bind]
      | some kind =>
          by_cases same : kind = f.operator.domain
          · simp [known, readable, refused, same, bind, Except.bind]
          · simp [known, readable, same, bind, Except.bind]
  · simp [known, bind, Except.bind]

theorem checkFilter_of_faulty (hasFields : b.fields ≠ []) (untyped : b.kinds = []) (fault : ¬f.IsSound b.fields) :
    b.checkFilter f = .error (b.fault f) := by
  have unknown : Dictionary.get? f.field b.kinds = none := by rw [untyped]; rfl
  rw [checkFilter, checkField_eq hasFields, unknown, QueryBuilder.fault]
  by_cases known : f.field ∈ b.fields
  · have unreadable : ¬f.IsReadable := fun readable => fault ⟨known, readable⟩
    simp [known, reading_of_unreadable unreadable, bind, Except.bind]
  · simp [known, bind, Except.bind]

theorem mapM_checked_eq_error {α β ε : Type} {check : α → Except ε Unit} {next : α → β} {before later : List α} {x : α}
    {e : ε} (passed : ∀ y ∈ before, check y = .ok ()) (refused : check x = .error e) :
    ((before ++ x :: later).mapM fun x => do check x; .ok (next x)) = .error e := by
  induction before with
  | nil => rw [List.nil_append, List.mapM_cons, refused]; rfl
  | cons y before ih =>
      obtain ⟨first, passed⟩ := List.forall_mem_cons.1 passed
      rw [List.cons_append, List.mapM_cons, first, ih passed]
      rfl

theorem isOk_conditionTexts_iff :
    (∃ texts, b.conditionTexts = .ok texts) ↔ ∀ f ∈ b.filters, b.checkFilter f = .ok () := by
  simp [conditionTexts, bind_eq_ok, filterTests_eq_ok]

theorem isError_conditionTexts_iff :
    (∃ e, b.conditionTexts = .error e) ↔ ∃ f ∈ b.filters, b.checkFilter f ≠ .ok () := by
  have known := @isOk_conditionTexts_iff b
  cases made : b.conditionTexts with
  | ok texts => simpa [made] using known
  | error e => simpa [made] using known

/-- A builder that knows no kinds fails exactly if one of its filters cannot be applied, and names the first of them. -/
theorem conditionTexts_eq_error_iff (hasFields : b.fields ≠ []) (untyped : b.kinds = []) {e : GenerationFault} :
    b.conditionTexts = .error e ↔ ∃ f, faulty? b.fields b.filters = some f ∧ e = b.fault f := by
  have passes {g : Filter} (sound : g.IsSound b.fields) : b.checkFilter g = .ok () :=
    (checkFilter_eq_ok_iff hasFields).2 ⟨sound, by simp [untyped, Dictionary.get?]⟩
  cases found : faulty? b.fields b.filters with
  | none =>
      obtain ⟨texts, made⟩ := isOk_conditionTexts_iff.2 fun f member => passes (faulty?_eq_none.1 found f member)
      simp [made]
  | some f =>
      obtain ⟨unsound, before, later, whole, sound⟩ := List.find?_eq_some_iff_append.1 found
      have stopped : b.filterTests = .error (b.fault f) := by
        rw [filterTests, whole]
        refine mapM_checked_eq_error (fun g member => passes (by simpa using sound g member)) ?_
        exact checkFilter_of_faulty hasFields untyped (by simpa using unsound)
      have failed : b.conditionTexts = .error (b.fault f) := by
        rw [conditionTexts, stopped]
        rfl
      simp [failed, eq_comm]

theorem kinds_ofSchema {settings : SchemaSettings} {lexicon : Lexicon} {d : Dataset} {schema : Schema} (table field : String)
    (inferred : Schema.infer settings lexicon d = .ok schema) :
    Dictionary.get? field (ofSchema table schema).kinds = schema.kindOf? field :=
  (Schema.get?_foldl_put (Schema.infer_fieldNames inferred).2 [] field).trans Option.or_none

/-- A builder fails if a filter cannot be applied or if an operator is for another kind than the field's. -/
theorem isError_conditionTexts_iff_faulty (hasFields : b.fields ≠ []) : (∃ e, b.conditionTexts = .error e) ↔
    (∃ f, faulty? b.fields b.filters = some f)
      ∨ ∃ f ∈ b.filters, ∃ kind, Dictionary.get? f.field b.kinds = some kind ∧ kind ≠ f.operator.domain := by
  have faulty : (∃ f, faulty? b.fields b.filters = some f) ↔ ∃ f ∈ b.filters, ¬f.IsSound b.fields := by
    rw [← Option.isSome_iff_exists, Option.isSome_iff_ne_none, Ne, faulty?_eq_none]
    simp
  rw [isError_conditionTexts_iff, faulty, ← exists_or]
  refine exists_congr fun f => ?_
  rw [Ne, checkFilter_eq_ok_iff hasFields, ← and_or_left, not_and_or]
  simp

/-- Selections and builders refuse the same requests. A draft whose literal names no operator is refused and leaves both as
    they are; of the others both keep the filters, without later repeats. A selection of all columns and a builder that knows
    no kinds fail exactly if some filter asks for an unknown column or has a value that cannot be read, and both name the
    first such filter. A builder for the inferred schema fails also if an operator is for another kind than its field's, and
    for no other reason. -/
theorem refuses_like_selection (d : Dataset) (hasColumns : d.sheet.header ≠ []) (drafts : List Draft) (s : Selection)
    (b : QueryBuilder) (all : s.columns = []) (fields : b.fields = d.sheet.header) (untyped : b.kinds = [])
    (fresh : s.filters = []) (fresh' : b.filters = []) :
    let kept := (drafts.filterMap Draft.filter?).eraseDups
    (∀ (s : Selection) (b : QueryBuilder) (draft : Draft),
      (s.offer draft).1.isOk = draft.filter?.isSome ∧ (b.offer draft).1.isOk = draft.filter?.isSome
        ∧ (draft.filter? = none → (s.offer draft).2 = s ∧ (b.offer draft).2 = b)) ∧
    ((s.offered drafts).filters = kept ∧ (b.offered drafts).filters = kept) ∧
    (∀ e, (s.offered drafts).run d = .error e ↔
      ∃ f, faulty? d.sheet.header kept = some f ∧ e = f.fault d.sheet.header) ∧
    (∀ e, (b.offered drafts).conditionTexts = .error e ↔
      ∃ f, faulty? d.sheet.header kept = some f ∧ e = b.fault f) ∧
    ∀ (settings : SchemaSettings) (lexicon : Lexicon) (schema : Schema),
      Schema.infer settings lexicon d = .ok schema →
      let typed := (ofSchema b.table schema).offered drafts
      typed.filters = kept ∧
      ((∃ e, typed.conditionTexts = .error e) ↔
        (∃ e, (b.offered drafts).conditionTexts = .error e) ∨
          ∃ f ∈ kept, ∃ kind, schema.kindOf? f.field = some kind ∧ kind ≠ f.operator.domain) := by
  intro kept
  -- Neither has a filter yet, so both keep the same list of the drafts.
  have keptBy : (drafts.filterMap Draft.filter?).foldl (fun known f => f.addTo known) [] = kept := foldl_addTo _
  have selected : s.offered drafts = { s with filters := kept } := by rw [Selection.offered_eq, fresh, keptBy]
  have built : b.offered drafts = { b with filters := kept } := by rw [offered_eq, fresh', keptBy]
  have named : b.fields ≠ [] := fields ▸ hasColumns
  have failed (e : GenerationFault) : (b.offered drafts).conditionTexts = .error e ↔
      ∃ f, faulty? d.sheet.header kept = some f ∧ e = b.fault f := by
    rw [built, ← fields]
    exact @conditionTexts_eq_error_iff { b with filters := kept } named untyped e
  refine ⟨fun s b draft => ?_, ⟨by rw [selected], by rw [built]⟩, fun e => ?_, failed, ?_⟩
  · rw [Selection.offer_eq, offer_eq]
    cases draft.filter? with
    | none => exact ⟨rfl, rfl, fun _ => ⟨rfl, rfl⟩⟩
    | some f => exact ⟨rfl, rfl, fun absent => absurd absent (by simp)⟩
  · rw [selected]
    exact @Selection.run_eq_error_iff { s with filters := kept } all d e
  · intro settings lexicon schema inferred typed
    have made : typed = { ofSchema b.table schema with filters := kept } := by
      refine (offered_eq _ _).trans ?_
      rw [show (ofSchema b.table schema).filters = [] from rfl, keptBy]
    have columns : typed.fields = d.sheet.header := by
      rw [made]
      exact (Schema.infer_fieldNames inferred).1
    have kinds (field : String) : Dictionary.get? field typed.kinds = schema.kindOf? field := by
      rw [made]
      exact kinds_ofSchema b.table field inferred
    have filters : typed.filters = kept := by rw [made]
    have told := @isError_conditionTexts_iff_faulty typed (columns ▸ hasColumns)
    simp only [columns, kinds, filters] at told
    have either : (∃ e, (b.offered drafts).conditionTexts = .error e) ↔ ∃ f, faulty? d.sheet.header kept = some f := by
      simp only [failed]
      exact ⟨fun ⟨_, f, found, _⟩ => ⟨f, found⟩, fun ⟨f, found⟩ => ⟨_, f, found, rfl⟩⟩
    rw [either]
    exact ⟨filters, told⟩

/-- Two people, one of whom has no age. -/
def people : Dataset := ⟨"people", ⟨["age", "city"], [["31", "Oslo"], ["", "Lima"]], by decide⟩⟩

/-- One draft names no operator, one says an earlier filter again in other words, and the value of the last one is no date. -/
def peopleDrafts : List Draft :=
  [⟨"age", ">=", "30"⟩, ⟨"age", "roughly", "30"⟩, ⟨"age", " >= ", "30"⟩, ⟨"city", "AFTER", "soon"⟩]

/-- The schema of the two people. -/
def peopleSchema : Schema where
  name := "people"
  fields := [
    { name := "age", readableNames := [("en", "age")], kind := .number, distinct := 2 },
    { name := "city", readableNames := [("en", "city")], kind := .text, distinct := 2, categorical := true,
      mainValues := ["Lima", "Oslo"] }]

theorem refuses_like_selection_people :
    let s := ({} : Selection).offered peopleDrafts
    let b := QueryBuilder.offered { table := "people", fields := ["age", "city"] } peopleDrafts
    s.filters = [⟨"age", .numeric .greaterOrEqual, "30"⟩, ⟨"city", .date .after, "soon"⟩]
      ∧ b.filters = s.filters
      ∧ s.run people = .error (.filter (.unreadableValue "soon" "city" (.date .after)))
      ∧ b.conditionTexts = .error (.filter (.unreadableValue "soon" "city" (.date .after)))
      ∧ ∃ e, ((ofSchema "people" peopleSchema).offered peopleDrafts).conditionTexts = .error e := by
  intro s b
  obtain ⟨_, ⟨kept, kept'⟩, ran, made, typed⟩ := refuses_like_selection people (by decide) peopleDrafts {}
    { table := "people", fields := ["age", "city"] } rfl rfl rfl rfl rfl
  have filters : (peopleDrafts.filterMap Draft.filter?).eraseDups
      = [⟨"age", .numeric .greaterOrEqual, "30"⟩, ⟨"city", .date .after, "soon"⟩] := by decide +kernel
  have found : faulty? people.sheet.header [⟨"age", .numeric .greaterOrEqual, "30"⟩, ⟨"city", .date .after, "soon"⟩]
      = some ⟨"city", .date .after, "soon"⟩ := by decide +kernel
  have inferred : Schema.infer {} (Lexicon.ofColumns ["age", "city"] ["en"]) people = .ok peopleSchema := by decide +kernel
  rw [filters] at kept kept' ran made typed
  have failed := (made (.filter (.unreadableValue "soon" "city" (.date .after)))).2 ⟨_, found, by decide⟩
  exact ⟨kept, kept'.trans kept.symm, (ran _).2 ⟨_, found, by decide⟩, failed,
    (typed _ _ _ inferred).2.2 (.inl ⟨_, failed⟩)⟩

end Sql.QueryBuilder

end Datasheet
