import Datasheet.Filter.Operator
import Datasheet.Sql.Aggregate

/-! # Errors

Every failure is a value that says its cause. The wording of a cause is a function of it, so two failures have
the same message exactly when their causes are told in the same words. A query that matches nothing is an
answer without rows and never an error.
-/

namespace Datasheet

/-- Why a schema cannot be built or changed. -/
inductive SchemaFault where
  | duplicateField (field schema : String)
  | undescribed (field : String)
  | unnamed (field language : String)
  | unreadableLexicon
  deriving DecidableEq, Repr

/-- Why a filter cannot be applied. -/
inductive FilterFault where
  | unknownOperator (literal : String)
  /-- A value that cannot be read in the operator's domain. -/
  | unreadableValue (value field : String) (operator : Operator)
  deriving DecidableEq, Repr

/-- Why a request has no SQL text. -/
inductive GenerationFault where
  | unknownOperator (literal : String)
  | wrongDomain (operator : Operator) (kind : Kind) (field : String)
  | filter (cause : FilterFault)
  | unknownAggregate (word : String)
  /-- A look-up of rows by an aggregate that picks no value. -/
  | notExtreme (function : Aggregate)
  | unknownField (field table : String)
  | notNumeric (field : String) (kind : Kind)
  deriving DecidableEq, Repr

/-- Why an SQL engine refuses a dataset or a query. -/
inductive EngineFault where
  | unreadable
  | reservedTable (name : String)
  /-- A second column of one name, in any letter case. -/
  | duplicateColumn (name : String)
  | tooManyColumns
  | unknownTable (name : String)
  | unknownColumn (name : String)
  | tooDeep
  /-- A number of rows that is no whole number of the engine. -/
  | countMismatch
  | patternTooLong
  | integerOverflow
  deriving DecidableEq, Repr

/-- Why SQL text has no answer. -/
inductive ExecutionFault where
  | couldNotConnect (cause : ExecutionFault)
  | closedFromStart
  | closed
  | noColumns (dataset : String)
  | unexpectedFrequency (text : String)
  | refused (fault : EngineFault)
  | reported (text : String)
  deriving DecidableEq, Repr

/-- Why settings are not valid. -/
inductive SettingsFault where
  | delimiter (c : Char)
  | noLanguage
  | pageSizeZero
  deriving DecidableEq, Repr

/-- The cause of a failure. -/
inductive Error where
  | schema (fault : SchemaFault)
  /-- A row with another number of cells than the header. -/
  | ragged (row expected found : Nat)
  | filter (fault : FilterFault)
  | generation (fault : GenerationFault)
  | execution (fault : ExecutionFault)
  | unknownField (field : String)
  /-- Delimited text that is not UTF-8. -/
  | delimitedText
  | file
  | settings (fault : SettingsFault)
  /-- Settings text that cannot be read, or settings that cannot be written. -/
  | settingsText
  | logDirective
  deriving DecidableEq, Repr

/-- What a value had to be, by the operator's domain. -/
def Operator.expectation : Operator → String
  | .numeric _ => "a number"
  | .text _ => "a text"
  | .date _ => "an ISO-8601 offset date-time"

namespace SchemaFault

def message : SchemaFault → String
  | duplicateField field schema => "duplicate field '" ++ field ++ "' in schema '" ++ schema ++ "'"
  | undescribed field => "no metadata for field '" ++ field ++ "'"
  | unnamed field language =>
      "field '" ++ field ++ "' has no readable name for language '" ++ language ++ "'"
  | unreadableLexicon => "invalid field metadata"

end SchemaFault

namespace FilterFault

def message : FilterFault → String
  | unknownOperator literal => "unknown operator '" ++ literal ++ "'"
  | unreadableValue value field operator =>
      "value '" ++ value ++ "' for " ++ field ++ " " ++ operator.word ++ " is not " ++ operator.expectation

end FilterFault

namespace GenerationFault

/-- The wording of a fault. A filter's fault is told with the words that tell it anywhere. -/
def message : GenerationFault → String
  | unknownOperator literal => "unknown operator '" ++ literal ++ "'"
  | wrongDomain operator kind field =>
      "operator '" ++ operator.word ++ "' does not apply to " ++ kind.name ++ " field '" ++ field ++ "'"
  | filter cause => "filter evaluation failed: " ++ cause.message
  | unknownAggregate word => "unknown aggregate function '" ++ word ++ "'"
  | notExtreme function => "row lookup needs max or min, not " ++ function.name
  | unknownField field table => "unknown field '" ++ field ++ "' in table '" ++ table ++ "'"
  | notNumeric field kind => "field '" ++ field ++ "' is " ++ kind.name ++ ", not numeric"

end GenerationFault

namespace EngineFault

def message : EngineFault → String
  | unreadable => "syntax error"
  | reservedTable name => "object name reserved for internal use: " ++ name
  | duplicateColumn name => "duplicate column name: " ++ name
  | tooManyColumns => "too many columns"
  | unknownTable name => "no such table: " ++ name
  | unknownColumn name => "no such column: " ++ name
  | tooDeep => "expression tree is too large"
  | countMismatch => "datatype mismatch"
  | patternTooLong => "pattern too complex"
  | integerOverflow => "integer overflow"

end EngineFault

namespace ExecutionFault

def message : ExecutionFault → String
  | couldNotConnect cause =>
      "could not connect to SQL engine: SQL execution failed: " ++ cause.message
  | closedFromStart => "SQL engine returned a closed connection"
  | closed => "connection is closed"
  | noColumns dataset => "dataset '" ++ dataset ++ "' has no columns"
  | unexpectedFrequency text => "unexpected frequency '" ++ text ++ "'"
  | refused fault => fault.message
  | reported text => text

def root : ExecutionFault → ExecutionFault
  | couldNotConnect cause => cause.root
  | fault => fault

end ExecutionFault

namespace SettingsFault

def message : SettingsFault → String
  | delimiter c => "delimiter '" ++ c.toString ++ "' is not a single ASCII character"
  | noLanguage => "at least one schema language is required"
  | pageSizeZero => "page_size must be greater than zero"

end SettingsFault

namespace Error

def message : Error → String
  | schema fault => "schema inference failed: " ++ fault.message
  | ragged row expected found =>
      "row " ++ row.repr ++ " has " ++ found.repr ++ " cells but header has " ++ expected.repr ++ " columns"
  | filter fault => "filter evaluation failed: " ++ fault.message
  | generation fault => "SQL generation failed: " ++ fault.message
  | execution fault => "SQL execution failed: " ++ fault.message
  | unknownField field => "unknown field '" ++ field ++ "'"
  | delimitedText => "CSV error: the text is not UTF-8"
  | file => "I/O error: the file cannot be read"
  | settings fault => "configuration error: " ++ fault.message
  | settingsText => "configuration error: the text does not hold settings"
  | logDirective => "invalid log directive"

end Error

/-- Two steps answer if the first one does and the second one answers from what the first one made. -/
theorem bind_eq_ok {α β ε : Type} {x : Except ε α} {f : α → Except ε β} {y : β} :
    (x >>= f) = .ok y ↔ ∃ a, x = .ok a ∧ f a = .ok y := by
  cases x <;> simp [bind, Except.bind]

theorem bind_eq_error {α β ε : Type} {x : Except ε α} {f : α → Except ε β} {e : ε} :
    (x >>= f) = .error e ↔ x = .error e ∨ ∃ a, x = .ok a ∧ f a = .error e := by
  cases x <;> simp [bind, Except.bind]

end Datasheet
