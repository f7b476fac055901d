import Datasheet.Kind
import Datasheet.Text.StringSet

/-! # Column profiles

A column is described by one scan of its cells. Each cell can only rule kinds out, so the order of the cells
does not matter: a column without a filled cell holds text, and otherwise dates win over numbers and numbers
over text.
-/

namespace Datasheet

/-- The kinds that the cells seen so far leave open. -/
structure OpenKinds where
  number : Bool := true
  date : Bool := true
  empty : Bool := true
  deriving DecidableEq, Repr

namespace OpenKinds

/-- What one more cell leaves open. An empty cell rules nothing out. -/
def observe (kinds : OpenKinds) (cell : String) : OpenKinds :=
  if cell.isEmpty then kinds
  else ⟨kinds.number && (readNumber? cell).isSome, kinds.date && isIsoMoment cell, false⟩

/-- The kind of a column whose cells left these kinds open. -/
def kind (kinds : OpenKinds) : Kind :=
  if kinds.empty then Kind.empty.settled
  else if kinds.date then .date
  else if kinds.number then .number
  else .text

end OpenKinds

def Kind.ofCells (cells : List String) : Kind := (cells.foldl OpenKinds.observe {}).kind

/-- What one scan of a column learns. -/
structure Profile where
  kind : Kind
  /-- Number of distinct cells, the empty cell included. -/
  distinct : Nat
  /-- The distinct cells, of a categorical text column only. -/
  mainValues : Option StringSet
  deriving DecidableEq, Repr

namespace Profile

/-- Profile of a column. A text column with at most `maxDistinct` distinct cells is categorical. -/
def ofCells (cells : List String) (maxDistinct : Nat) : Profile :=
  let values := StringSet.ofList cells
  let kind := Kind.ofCells cells
  ⟨kind, values.length, if kind = .text ∧ values.length ≤ maxDistinct then some values else none⟩

def isCategorical (p : Profile) : Bool := p.mainValues.isSome

end Profile

end Datasheet
