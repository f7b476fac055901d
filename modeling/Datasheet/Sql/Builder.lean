import Datasheet.Filter.Basic
import Datasheet.Schema
import Datasheet.Settings.Basic
import Datasheet.Sheet.Paging
import Datasheet.Sql.Query

/-! # Building queries

A builder knows a table, its fields and the filters that every query applies. A request says what to ask; the
builder either makes the query of it or says why there is none. Dates are compared by the engine as calendar
days, and a cell that is not known to be a number has to look like one before it is compared as a number.
-/

namespace Datasheet.Sql

open Text

/-- What is known of a table, and the filters of its queries. -/
structure QueryBuilder where
  table : String
  /-- The fields of the table; any field is allowed if none is given. -/
  fields : List String
  keyFields : List String := []
  /-- The kinds of fields, as far as they are known. -/
  kinds : Dictionary Kind := []
  filters : List Filter := []
  ignoreCase : Bool := true
  pageSize : Nat := 10
  deriving DecidableEq, Repr

/-- What to ask of a table. -/
inductive Request where
  | all
  | window (limit offset : Nat)
  /-- A page of the builder's page size, counted from zero. -/
  | page (number : Nat)
  | columns (fields : List String)
  | distinct (field : String)
  | rowCount
  /-- The value of an aggregate, named by a word. -/
  | aggregate (field function : String)
  | extremeRows (field function : String)
  /-- The extreme number of rows that a value of the field has. -/
  | frequency (field : String) (order : FrequencyOrder)
  /-- The values of the field with exactly this many rows. -/
  | withFrequency (field : String) (count : Nat)
  deriving DecidableEq, Repr

/-- What a request asks for before the filters come in. -/
structure Outline where
  answer : Answer
  tests : List Test := []
  extreme : Option (Aggregate × Scalar) := none
  deriving DecidableEq, Repr

/-- The query of an outline over a table. An aggregate is taken over the same rows as the query. -/
def Outline.query (o : Outline) (table : Name) (filters : List Test) : Query :=
  match o.extreme with
  | none => ⟨o.answer, table, (o.tests ++ filters).map .test⟩
  | some (function, value) =>
      ⟨o.answer, table, o.tests.map .test
        ++ .isExtreme value ⟨function, value, table, o.tests ++ filters⟩ :: filters.map .test⟩

namespace QueryBuilder

/-- A builder for a table with the fields, key fields and kinds of a schema. -/
def ofSchema (table : String) (s : Schema) : QueryBuilder where
  table := table
  fields := s.fieldNames
  keyFields := s.keyNames
  kinds := s.fields.foldl (fun kinds f => Dictionary.put f.name f.kind kinds) []

def setKind (b : QueryBuilder) (field : String) (kind : Kind) : QueryBuilder :=
  { b with kinds := Dictionary.put field kind b.kinds }

/-- Takes the rule for letter case and the page size from the settings. A page has at least one row. -/
def configure (b : QueryBuilder) (settings : QuerySettings) : QueryBuilder :=
  { b with ignoreCase := settings.ignoreCase, pageSize := max settings.pageSize 1 }

/-- Adds a filter unless the builder has it. -/
def addFilter (b : QueryBuilder) (f : Filter) : QueryBuilder := { b with filters := f.addTo b.filters }

def parseFilter (field literal value : String) : Except GenerationFault Filter :=
  (Filter.parse field literal value).mapError fun _ => .unknownOperator literal

/-- Adds the filter that a draft stands for, or says why there is none and stays as it is. -/
def offer (b : QueryBuilder) (draft : Filter.Draft) : Except GenerationFault Unit × QueryBuilder :=
  match parseFilter draft.field draft.literal draft.value with
  | .ok f => (.ok (), b.addFilter f)
  | .error fault => (.error fault, b)

/-- The field is one of the builder's, if the builder knows any. -/
def checkField (b : QueryBuilder) (field : String) : Except GenerationFault Unit :=
  if b.fields.isEmpty || b.fields.contains field then .ok () else .error (.unknownField field b.table)

/-- The field is one of the builder's and is not known to be anything but a number. -/
def checkNumeric (b : QueryBuilder) (field : String) : Except GenerationFault Unit := do
  b.checkField field
  match Dictionary.get? field b.kinds with
  | some .number => .ok ()
  | none => .ok ()
  | some kind => .error (.notNumeric field kind)

def column (field : String) : Operand := .column (Name.ofText field)

/-- The cell of a field is not empty. -/
def filled (field : String) : Test := .compare (.plain (column field)) .notEqual (.plain (.text ""))

/-- The cell of a field looks like a number: it has a digit and nothing but digits, points, signs and
    exponents. A field of numbers only has to be filled. -/
def guard (b : QueryBuilder) (field : String) : List Test :=
  if Dictionary.get? field b.kinds = some .number then [filled field]
  else
    [filled field, .glob (.trimmed (column field)) false "*[0-9]*",
     .glob (.trimmed (column field)) true "*[^0-9.eE+-]*"]

def numericComparison : NumericOperator → Comparison
  | .equal => .equal
  | .notEqual => .notEqual
  | .less => .less
  | .lessOrEqual => .lessOrEqual
  | .greater => .greater
  | .greaterOrEqual => .greaterOrEqual

def folded (b : QueryBuilder) (x : Operand) : Scalar := if b.ignoreCase then .upper x else .plain x

def textTest (b : QueryBuilder) (field : String) (value : String) : TextOperator → Test
  | .equals => .compare (b.folded (column field)) .equal (b.folded (.text value))
  | .different => .compare (b.folded (column field)) .notEqual (b.folded (.text value))
  | .contains => .like (b.folded (column field)) (b.folded (.text ("%" ++ likePattern value ++ "%")))
  | .startsWith => .like (b.folded (column field)) (b.folded (.text (likePattern value ++ "%")))
  | .endsWith => .like (b.folded (column field)) (b.folded (.text ("%" ++ likePattern value)))

def dateComparison : DateOperator → Comparison
  | .before => .less
  | .after => .greater

def tests (b : QueryBuilder) (f : Filter) : List Test :=
  match f.operator with
  | .numeric operator =>
      b.guard f.field ++
        [.compare (.decimal (column f.field)) (numericComparison operator) (.decimal (.text (trimmed f.value)))]
  | .text operator => [b.textTest f.field f.value operator]
  | .date operator =>
      [.compare (.day (column f.field)) (dateComparison operator) (.day (.text (trimmed f.value)))]

/-- The filter has a field of the builder, an operator for the field's kind, and a value that can be read. -/
def checkFilter (b : QueryBuilder) (f : Filter) : Except GenerationFault Unit := do
  b.checkField f.field
  match Dictionary.get? f.field b.kinds with
  | some kind =>
      if kind = f.operator.domain then .ok () else .error (.wrongDomain f.operator kind f.field)
  | none => .ok ()
  match f.reading with
  | .ok _ => .ok ()
  | .error fault => .error (.filter fault)

/-- The tests of each filter, or the first filter that has none. -/
def filterTests (b : QueryBuilder) : Except GenerationFault (List (List Test)) :=
  b.filters.mapM fun f => do
    b.checkFilter f
    .ok (b.tests f)

def conditionTexts (b : QueryBuilder) : Except GenerationFault (List String) := do
  let filters ← b.filterTests
  .ok (filters.map fun tests => String.ofList (spell (conjunction (tests.map Test.tokens))))

/-- The text that restricts the rows, with a blank before it; nothing without filters. -/
def whereText (b : QueryBuilder) : Except GenerationFault String := do
  let filters ← b.filterTests
  if filters.isEmpty then .ok ""
  else .ok (String.ofList (' ' :: spell (restriction (filters.flatten.map Test.tokens))))

def decimal (field : String) : Scalar := .decimal (column field)

def readAggregate (word : String) : Except GenerationFault Aggregate :=
  match Aggregate.read? word with
  | some function => .ok function
  | none => .error (.unknownAggregate word)

/-- The rows of a page, counted from zero. -/
def pageWindow (b : QueryBuilder) (number : Nat) : Window := ⟨b.pageSize, saturated (number * b.pageSize)⟩

def outline (b : QueryBuilder) : Request → Except GenerationFault Outline
  | .all => .ok { answer := .rows [] none }
  | .window limit offset => .ok { answer := .rows [] (some ⟨limit, offset⟩) }
  | .page number => .ok { answer := .rows [] (some (b.pageWindow number)) }
  | .columns fields => do
      fields.forM b.checkField
      .ok { answer := .rows (fields.map Name.ofText) none }
  | .distinct field => do
      b.checkField field
      .ok { answer := .distinct (Name.ofText field) }
  | .rowCount => .ok { answer := .rowCount }
  | .aggregate field word => do
      let function ← readAggregate word
      b.checkNumeric field
      .ok { answer := .aggregate function (decimal field) (function.name ++ "_" ++ wordPart field),
            tests := b.guard field }
  | .extremeRows field word => do
      let function ← readAggregate word
      if function.isExtreme then do
        b.checkNumeric field
        .ok { answer := .rows (b.keyFields.map Name.ofText) none, tests := b.guard field,
              extreme := some (function, decimal field) }
      else .error (.notExtreme function)
  | .frequency field order => do
      b.checkField field
      .ok { answer := .frequencies (Name.ofText field) (.first order), tests := [filled field] }
  | .withFrequency field count => do
      b.checkField field
      .ok { answer := .frequencies (Name.ofText field) (.exactly count), tests := [filled field] }

/-- The query of a request: its outline, restricted by the filters. -/
def query (b : QueryBuilder) (request : Request) : Except GenerationFault Query := do
  let outline ← b.outline request
  let filters ← b.filterTests
  .ok (outline.query (Name.ofText b.table) filters.flatten)

def text (b : QueryBuilder) (request : Request) : Except GenerationFault String :=
  (b.query request).map Query.text

end QueryBuilder

end Datasheet.Sql
