/-! # JSON values

The tree of a JSON text. Members of an object keep their order and may repeat, because readers of objects
disagree on repeated names. A string may hold half of a surrogate pair, which stands for no character: such a
string is well formed but has no text.
-/

namespace Datasheet.Json

/-- A JSON value. -/
inductive Value where
  | null
  | bool (b : Bool)
  | number (spelling : List Char)
  /-- A string; none for one that has no text. -/
  | string (s : Option (List Char))
  | array (elements : List Value)
  | object (members : List (Option (List Char) × Value))

end Datasheet.Json
