import Datasheet.Json.Value

/-! # Writing JSON

Values are written over several lines, two spaces deeper at each level, with an empty array or object on one
line. Only quotes, backslashes and control characters are escaped.
-/

namespace Datasheet.Json

def hexDigit (n : Nat) : Char := if n < 10 then Char.ofNat (48 + n) else Char.ofNat (87 + n)

def writeChar (c : Char) : List Char :=
  if c = '"' then ['\\', '"']
  else if c = '\\' then ['\\', '\\']
  else if c = Char.ofNat 8 then ['\\', 'b']
  else if c = Char.ofNat 12 then ['\\', 'f']
  else if c = '\n' then ['\\', 'n']
  else if c = '\r' then ['\\', 'r']
  else if c = '\t' then ['\\', 't']
  else if c.toNat < 0x20 then
    ['\\', 'u', '0', '0', hexDigit (c.toNat / 16), hexDigit (c.toNat % 16)]
  else [c]

def writeString (s : List Char) : List Char := '"' :: (s.flatMap writeChar ++ ['"'])

def indent (level : Nat) : List Char := '\n' :: List.replicate (2 * level) ' '

mutual

/-- A value whose first line stands at the given level. -/
def writeAt (level : Nat) : Value → List Char
  | .null => "null".toList
  | .bool true => "true".toList
  | .bool false => "false".toList
  | .number spelling => spelling
  | .string s => writeString (s.getD [])
  | .array [] => ['[', ']']
  | .array (v :: vs) => '[' :: (writeElements (level + 1) (v :: vs) ++ indent level ++ [']'])
  | .object [] => ['{', '}']
  | .object (m :: ms) => '{' :: (writeMembers (level + 1) (m :: ms) ++ indent level ++ ['}'])

def writeElements (level : Nat) : List Value → List Char
  | [] => []
  | [v] => indent level ++ writeAt level v
  | v :: vs => indent level ++ writeAt level v ++ ',' :: writeElements level vs

def writeMembers (level : Nat) : List (Option (List Char) × Value) → List Char
  | [] => []
  | [(name, v)] => indent level ++ writeString (name.getD []) ++ ':' :: ' ' :: writeAt level v
  | (name, v) :: ms =>
      indent level ++ writeString (name.getD []) ++ ':' :: ' ' :: writeAt level v
        ++ ',' :: writeMembers level ms

end

def write (v : Value) : List Char := writeAt 0 v

end Datasheet.Json
