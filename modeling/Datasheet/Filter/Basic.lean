import Datasheet.Error

/-! # Filters

A filter is a field, an operator and a value as text. The value is read in the operator's domain when the
filter is applied; a date of a filter has to be in ISO-8601, while cells may use the legacy notation too.
-/

namespace Datasheet

open Calendar

/-- A condition on one field. Two filters are equal when all three parts are. -/
structure Filter where
  field : String
  operator : Operator
  value : String
  deriving DecidableEq, Repr

/-- A filter as it is asked for, with a literal that may name no operator. -/
structure Filter.Draft where
  field : String
  literal : String
  value : String
  deriving DecidableEq, Repr

/-- A value read in the domain of its operator. -/
inductive Reading where
  | number (x : Binary64)
  | date (m : Moment)
  | text (s : String)
  deriving DecidableEq, Repr

namespace Filter

def parse (field literal value : String) : Except FilterFault Filter :=
  match Operator.read? literal with
  | some operator => .ok ⟨field, operator, value⟩
  | none => .error (.unknownOperator literal)

def unreadable (f : Filter) : FilterFault := .unreadableValue f.value f.field f.operator

/-- The value, read in the operator's domain. -/
def reading (f : Filter) : Except FilterFault Reading :=
  match f.operator with
  | .numeric _ =>
      match readNumber? f.value with
      | some x => .ok (.number x)
      | none => .error f.unreadable
  | .date _ =>
      match DateNotation.isoOffset.read? f.value with
      | some m => .ok (.date m)
      | none => .error f.unreadable
  | .text _ => .ok (.text f.value)

def text (f : Filter) : String := f.field ++ " " ++ f.operator.word ++ " '" ++ f.value ++ "'"

/-- Adds a filter to a list unless the list has it. -/
def addTo (f : Filter) (filters : List Filter) : List Filter :=
  if f ∈ filters then filters else filters ++ [f]

end Filter

end Datasheet
