import Datasheet.Calendar.Notation

/-! # Kinds of columns

A column holds numbers, dates or text. A fourth kind stands for a column without a single filled cell; a field
never keeps it.
-/

namespace Datasheet

/-- What the cells of a column hold. -/
inductive Kind where
  | number
  | date
  | text
  | empty
  deriving DecidableEq, Repr

namespace Kind

/-- The kind a field keeps: a column without filled cells counts as text. -/
def settled : Kind → Kind
  | empty => text
  | kind => kind

def name : Kind → String
  | number => "Number"
  | date => "Date"
  | text => "Text"
  | empty => "Empty"

end Kind

end Datasheet
