import Mathlib.Data.String.Basic
import Datasheet.Text.Lowercase

/-! # Folding the case of ASCII letters

Texts are compared without regard to case by their small letters here and by their capitals there. Of ASCII
letters each of the two tells as much as the other one.
-/

namespace Datasheet.Text

theorem toNat_ofNat {n : Nat} (small : n < 0xD800) : (Char.ofNat n).toNat = n := by
  rw [Char.ofNat, dif_pos (.inl small)]
  rfl

theorem toNat_lowerAscii (c : Char) :
    (lowerAscii c).toNat = if 65 ≤ c.toNat ∧ c.toNat ≤ 90 then c.toNat + 32 else c.toNat := by
  have range : ('A' ≤ c ∧ c ≤ 'Z') ↔ 65 ≤ c.toNat ∧ c.toNat ≤ 90 := Iff.rfl
  rw [lowerAscii]
  by_cases capital : 'A' ≤ c ∧ c ≤ 'Z'
  · have bounds := range.1 capital
    rw [if_pos capital, if_pos bounds, toNat_ofNat (by omega)]
  · rw [if_neg capital, if_neg fun bounds => capital (range.2 bounds)]

theorem toNat_upperAscii (c : Char) :
    (upperAscii c).toNat = if 97 ≤ c.toNat ∧ c.toNat ≤ 122 then c.toNat - 32 else c.toNat := by
  have range : ('a' ≤ c ∧ c ≤ 'z') ↔ 97 ≤ c.toNat ∧ c.toNat ≤ 122 := Iff.rfl
  rw [upperAscii]
  by_cases letter : 'a' ≤ c ∧ c ≤ 'z'
  · have bounds := range.1 letter
    rw [if_pos letter, if_pos bounds, toNat_ofNat (by omega)]
  · rw [if_neg letter, if_neg fun bounds => letter (range.2 bounds)]

theorem char_ext {c d : Char} (same : c.toNat = d.toNat) : c = d := Char.ext (UInt32.toNat_inj.1 same)

theorem lowerAscii_upperAscii (c : Char) : lowerAscii (upperAscii c) = lowerAscii c := by
  apply char_ext
  grind [toNat_lowerAscii, toNat_upperAscii]

theorem upperAscii_lowerAscii (c : Char) : upperAscii (lowerAscii c) = upperAscii c := by
  apply char_ext
  grind [toNat_lowerAscii, toNat_upperAscii]

theorem map_upperAscii_eq_iff {a b : List Char} :
    a.map upperAscii = b.map upperAscii ↔ a.map lowerAscii = b.map lowerAscii := by
  constructor
  · intro same
    have lowered := congrArg (List.map lowerAscii) same
    simpa [Function.comp_def, lowerAscii_upperAscii] using lowered
  · intro same
    have raised := congrArg (List.map upperAscii) same
    simpa [Function.comp_def, upperAscii_lowerAscii] using raised

/-! ## Lengths -/

theorem utf8Size_of_ascii {c : Char} (ascii : c.toNat < 128) : c.utf8Size = 1 := by
  have small : c.val ≤ 0x7F := by
    rw [UInt32.le_iff_toNat_le]
    exact Nat.le_of_lt_succ ascii
  rw [Char.utf8Size]
  exact if_pos small

theorem utf8Size_upperAscii (c : Char) : (upperAscii c).utf8Size = c.utf8Size := by
  have upper := toNat_upperAscii c
  by_cases letter : 97 ≤ c.toNat ∧ c.toNat ≤ 122
  · rw [if_pos letter] at upper
    rw [utf8Size_of_ascii (by omega), utf8Size_of_ascii (by omega)]
  · rw [if_neg letter] at upper
    rw [char_ext upper]

theorem utf8ByteSize_map_upperAscii (s : String) :
    (String.ofList (s.toList.map upperAscii)).utf8ByteSize = s.utf8ByteSize := by
  have lengths (cs : List Char) : String.utf8Len (cs.map upperAscii) = String.utf8Len cs := by
    induction cs with
    | nil => rfl
    | cons c cs ih => rw [List.map_cons, String.utf8Len_cons, String.utf8Len_cons, ih, utf8Size_upperAscii]
  rw [String.utf8ByteSize_ofList, lengths, ← String.utf8ByteSize_ofList, String.ofList_toList]

/-! ## ASCII texts -/

/-- A text of ASCII characters other than NUL. -/
def IsAscii (s : String) : Prop := ∀ c ∈ s.toList, 0 < c.toNat ∧ c.toNat < 128

instance (s : String) : Decidable (IsAscii s) :=
  List.decidableBAll (fun c : Char => 0 < c.toNat ∧ c.toNat < 128) s.toList

/-- The lower-case form of a text of ASCII characters does not depend on neighbours. -/
theorem lowercase_of_ascii {cs : List Char} (ascii : ∀ c ∈ cs, c.toNat < 128) : lowercase cs = cs.map lowerAscii := by
  have anywhere (before : List Char) : lowercaseFrom before cs = cs.map lowerAscii := by
    induction cs generalizing before with
    | nil => rfl
    | cons c cs ih =>
        obtain ⟨first, rest⟩ := List.forall_mem_cons.1 ascii
        have noSigma : c.toNat ≠ 0x3A3 := by omega
        rw [lowercaseFrom, if_neg noSigma, lowerChar, if_pos first, ih rest]
        rfl
  exact anywhere []

end Datasheet.Text
