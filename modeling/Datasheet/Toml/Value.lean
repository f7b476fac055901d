/-! # TOML values

The tree of a TOML text. Numbers with a point and moments keep their spelling.
-/

namespace Datasheet.Toml

/-- A TOML value. -/
inductive Value where
  | string (s : List Char)
  | integer (n : Int)
  | float (spelling : List Char)
  | boolean (b : Bool)
  | moment (spelling : List Char)
  | array (elements : List Value)
  | table (entries : List (String × Value))

end Datasheet.Toml
