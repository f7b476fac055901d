/-! # Dictionaries

A dictionary is a list of named values. Putting a value under a name replaces the value that the name has, so
each name occurs once.
-/

namespace Datasheet

/-- Values by name, in the order in which the names were first put. -/
abbrev Dictionary (α : Type) := List (String × α)

namespace Dictionary

variable {α : Type}

def get? (name : String) (d : Dictionary α) : Option α := d.lookup name

def put (name : String) (value : α) : Dictionary α → Dictionary α
  | [] => [(name, value)]
  | (other, old) :: rest =>
      if other = name then (name, value) :: rest else (other, old) :: put name value rest

end Dictionary

end Datasheet
