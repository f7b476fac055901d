/-! # Blank characters

Cells and literals are read after the blank characters around them are dropped. Blank means the Unicode
property White_Space, so a no-break space and an ideographic space are blank too.
-/

namespace Datasheet.Text

/-- A character with the property White_Space. -/
def isBlank (c : Char) : Bool :=
  (0x09 ≤ c.toNat && c.toNat ≤ 0x0D) || c.toNat == 0x20 || c.toNat == 0x85 || c.toNat == 0xA0
    || c.toNat == 0x1680 || (0x2000 ≤ c.toNat && c.toNat ≤ 0x200A) || c.toNat == 0x2028
    || c.toNat == 0x2029 || c.toNat == 0x202F || c.toNat == 0x205F || c.toNat == 0x3000

def trimStart (cs : List Char) : List Char := cs.dropWhile isBlank

def trimEnd : List Char → List Char
  | [] => []
  | c :: rest =>
      match trimEnd rest with
      | [] => if isBlank c then [] else [c]
      | kept => c :: kept

def trim (cs : List Char) : List Char := trimEnd (trimStart cs)

/-- Cuts a list at every element that satisfies `p`. The elements cut at are dropped, and empty pieces
    stay. -/
def splitWhen {α : Type} (p : α → Bool) : List α → List (List α)
  | [] => [[]]
  | c :: rest =>
      if p c then [] :: splitWhen p rest
      else
        match splitWhen p rest with
        | [] => [[c]]
        | piece :: pieces => (c :: piece) :: pieces

/-- The words of a text: its longest pieces without a blank. -/
def words (cs : List Char) : List (List Char) :=
  (splitWhen isBlank cs).filter (!·.isEmpty)

def joinWith {α : Type} (separator : List α) : List (List α) → List α
  | [] => []
  | [piece] => piece
  | piece :: pieces => piece ++ separator ++ joinWith separator pieces

/-- A text without the blanks around it. -/
def trimmed (s : String) : String := String.ofList (trim s.toList)

end Datasheet.Text
