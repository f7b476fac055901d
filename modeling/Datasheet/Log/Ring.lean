import Datasheet.Log.Level

/-! # The log ring

A ring keeps the most recent entries, oldest first. When it is full, each new entry takes the place of the
oldest one.
-/

namespace Datasheet.Log

/-- One line of the log. -/
structure Entry where
  level : Level
  target : String
  message : String
  deriving DecidableEq, Repr

def Entry.display (e : Entry) (time : String) : String :=
  "[" ++ time ++ "] " ++ e.level.name ++ " [" ++ e.target ++ "] " ++ e.message

/-- The most recent entries, oldest first. -/
structure Ring where
  capacity : Nat
  entries : List Entry := []
  deriving DecidableEq, Repr

namespace Ring

/-- Entries that a ring keeps unless told otherwise. -/
def usualCapacity : Nat := 1000

/-- An empty ring. It keeps at least one entry. -/
def make (capacity : Nat) : Ring := ⟨max capacity 1, []⟩

/-- Adds an entry; a full ring drops its oldest one first. -/
def push (r : Ring) (e : Entry) : Ring :=
  { r with entries := (if r.capacity ≤ r.entries.length then r.entries.drop 1 else r.entries) ++ [e] }

def clear (r : Ring) : Ring := { r with entries := [] }

def size (r : Ring) : Nat := r.entries.length

/-- The first `count` elements of a list read backwards, in the list's order. -/
def lastOf {α : Type} (count : Nat) (xs : List α) : List α := (xs.reverse.take count).reverse

/-- The most recent entries, at most `count` of them. -/
def recent (r : Ring) (count : Nat) : List Entry := lastOf count r.entries

/-- The most recent entries of one target, at most `count` of them. -/
def recentFor (r : Ring) (target : String) (count : Nat) : List Entry :=
  lastOf count (r.entries.filter (·.target == target))

end Ring

end Datasheet.Log
