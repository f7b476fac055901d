/-! # Sets of strings

A set is its members in strictly ascending order of code points, so equal sets are equal lists.
-/

namespace Datasheet

/-- Strings in strictly ascending order. -/
abbrev StringSet := List String

namespace StringSet

def insert (s : String) : StringSet → StringSet
  | [] => [s]
  | t :: rest => if s = t then t :: rest else if s < t then s :: t :: rest else t :: insert s rest

def remove (s : String) : StringSet → StringSet
  | [] => []
  | t :: rest => if s = t then rest else t :: remove s rest

def ofList (strings : List String) : StringSet := strings.foldl (fun set s => insert s set) []

end StringSet

end Datasheet
