import Datasheet.Proofs.Number.Whole
import Datasheet.Proofs.Toml.Quoted
import Datasheet.Toml.Reader

/-! # Values and their texts

A value is read in front of what can stand behind one: the end of its line, a comma, or the bracket that closes its array.
Whole numbers, booleans and strings are read back from the texts in which they are written.
-/

namespace Datasheet.Toml

/-- A value ends here. -/
inductive EndsValue : List Char → Prop where
  | line (rest : List Char) : EndsValue ('\n' :: rest)
  | element (rest : List Char) : EndsValue (',' :: rest)
  | array (rest : List Char) : EndsValue (']' :: rest)

/-- The text starts with no blank and is read as the value wherever a value can end, with a round for each character,
    where `depth` arrays and tables may still be opened. -/
structure ReadsAs (depth : Nat) (text : List Char) (v : Value) : Prop where
  starts : ∃ c cs, text = c :: cs ∧ isBlank c = false
  read : ∀ fuel rest, text.length ≤ fuel → EndsValue rest → readValue? fuel depth (text ++ rest) = some (v, rest)

variable {rest : List Char}

theorem EndsValue.apart (ends : EndsValue rest) (quote : Char) (kind : IsQuote quote) : rest.head? ≠ some quote := by
  rcases kind with rfl | rfl <;> cases ends <;> simp

/-! ## Whole numbers -/

theorem not_marked (ends : EndsValue rest) {digits : List Char} (all : ∀ c ∈ digits, c.isDigit = true) {mark : Char}
    (other : mark = '-' ∨ mark = ':') (count : Nat) :
    (((digits ++ rest).take count).all Char.isDigit && ((digits ++ rest).drop count).head? == some mark) = false := by
  induction digits generalizing count with
  | nil =>
      cases count with
      | zero => rcases other with rfl | rfl <;> cases ends <;> rfl
      | succ count => cases ends <;> rfl
  | cons c digits ih =>
      obtain ⟨here, later⟩ := List.forall_mem_cons.1 all
      cases count with
      | zero =>
          have unmarked : c ≠ mark := by
            rintro rfl
            rcases other with rfl | rfl <;> cases here
          simp [unmarked]
      | succ count => simpa [here] using ih later count

theorem readMoreDigits_append (ends : EndsValue rest) {digits : List Char} (all : ∀ c ∈ digits, c.isDigit = true) :
    readMoreDigits Char.isDigit (digits ++ rest) = (digits, rest) := by
  induction digits with
  | nil => cases ends <;> rfl
  | cons c digits ih =>
      obtain ⟨here, later⟩ := List.forall_mem_cons.1 all
      have notLine : c ≠ '_' := by
        rintro rfl
        cases here
      rw [List.cons_append, readMoreDigits]
      · rw [if_pos here, ih later]
      · intro _ _ same
        exact absurd same notLine

theorem eq_zero_of_head?_toDigits {n : Nat} (zero : (Nat.toDigits 10 n).head? = some '0') : n = 0 := by
  induction n using Nat.strongRecOn with
  | ind n ih =>
      by_cases small : n < 10
      · rw [Nat.toDigits_of_lt_base small] at zero
        have digit : ∀ n < 10, Nat.digitChar n = '0' → n = 0 := by decide
        exact digit n small (Option.some.inj zero)
      · rw [Nat.toDigits_of_base_le (by decide) (Nat.le_of_not_lt small),
          List.head?_append_of_ne_nil _ Nat.toDigits_ne_nil] at zero
        have empty := ih (n / 10) (by omega) zero
        omega

theorem isDigit_of_mem_toDigits {n : Nat} {c : Char} (member : c ∈ Nat.toDigits 10 n) : c.isDigit = true :=
  Nat.isDigit_of_mem_toDigits (by decide) (by decide) member

theorem toDigits_cases (n : Nat) : n = 0 ∨
    ∃ c digits, Nat.toDigits 10 n = c :: digits ∧ c ≠ '0' ∧ ∀ d ∈ c :: digits, d.isDigit = true := by
  cases written : Nat.toDigits 10 n with
  | nil => exact absurd written Nat.toDigits_ne_nil
  | cons c digits =>
      by_cases zero : c = '0'
      · exact .inl (eq_zero_of_head?_toDigits (written ▸ congrArg some zero))
      · exact .inr ⟨c, digits, rfl, zero, fun d member => isDigit_of_mem_toDigits (written ▸ member)⟩

theorem readWhole?_toDigits (ends : EndsValue rest) (n : Nat) :
    readWhole? (Nat.toDigits 10 n ++ rest) = some (Nat.toDigits 10 n, rest) := by
  rcases toDigits_cases n with rfl | ⟨c, digits, written, other, all⟩
  · rfl
  · obtain ⟨here, later⟩ := List.forall_mem_cons.1 all
    rw [written, List.cons_append, readWhole?, readDigits?, if_pos here, readMoreDigits_append ends later]
    intro _ same
    exact absurd (List.cons.inj same).1 other

theorem exists_toDigits (n : Nat) : ∃ c digits, Nat.toDigits 10 n = c :: digits ∧ c.isDigit = true := by
  cases written : Nat.toDigits 10 n with
  | nil => exact absurd written Nat.toDigits_ne_nil
  | cons c digits => exact ⟨c, digits, rfl, isDigit_of_mem_toDigits (written ▸ List.mem_cons_self)⟩

theorem not_isPrefixOf {first c : Char} (other : c ≠ first) (word cs : List Char) :
    (first :: word).isPrefixOf (c :: cs) = false := by
  rw [List.isPrefixOf_cons_cons, beq_eq_false_iff_ne.2 other.symm, Bool.false_and]

theorem integer?_ofNat {n : Nat} (small : n < Nat.pow 2 63) : integer? n = some (.integer n) := by
  unfold integer?
  split
  · rfl
  · next outside =>
      exfalso
      -- what the bound is does not matter, and nothing has to compute it
      generalize Nat.pow 2 63 = bound at small outside
      exact outside ⟨by omega, by omega⟩

theorem readDecimal?_toDigits (ends : EndsValue rest) {n : Nat} (small : n < Nat.pow 2 63) :
    readDecimal? (Nat.toDigits 10 n ++ rest) = some (.integer n, rest) := by
  obtain ⟨c, digits, written, digit⟩ := exists_toDigits n
  have unsigned : readSign (Nat.toDigits 10 n ++ rest) = ([], Nat.toDigits 10 n ++ rest) := by
    rw [written, List.cons_append]
    unfold readSign
    split
    · next same => exact absurd (List.cons.inj same).1 (ne_of_class digit rfl)
    · next same => exact absurd (List.cons.inj same).1 (ne_of_class digit rfl)
    · rfl
  have finite : ("inf".toList.isPrefixOf (Nat.toDigits 10 n ++ rest) ||
      "nan".toList.isPrefixOf (Nat.toDigits 10 n ++ rest)) = false := by
    have noInf := not_isPrefixOf (ne_of_class digit (by decide : Char.isDigit 'i' = false)) ['n', 'f'] (digits ++ rest)
    have noNan := not_isPrefixOf (ne_of_class digit (by decide : Char.isDigit 'n' = false)) ['a', 'n'] (digits ++ rest)
    rw [written]
    exact Bool.or_eq_false_iff.2 ⟨noInf, noNan⟩
  have places : readPlaces? rest = some ([], rest) := by cases ends <;> rfl
  have exponent : readExponent? rest = some ([], rest) := by cases ends <;> rfl
  rw [readDecimal?, unsigned]
  -- one part after the other, so that nothing unfolds the bound of 64 bits
  dsimp only
  rw [finite, if_neg Bool.false_ne_true, readWhole?_toDigits ends, Option.bind_eq_bind, Option.bind_some, places,
    Option.bind_eq_bind, Option.bind_some, exponent, Option.bind_some]
  have positive : ([] : List Char) ≠ ['-'] := by simp
  have noFraction : ([] : List Char).isEmpty && ([] : List Char).isEmpty := rfl
  dsimp only
  rw [if_pos noFraction, if_neg positive, Decimal.digitsValue_toDigits, integer?_ofNat small, Option.bind_some]

theorem readNumber?_toDigits (ends : EndsValue rest) {n : Nat} (small : n < Nat.pow 2 63) :
    readNumber? (Nat.toDigits 10 n ++ rest) = some (.integer n, rest) := by
  have decimal : readNumber? (Nat.toDigits 10 n ++ rest) = readDecimal? (Nat.toDigits 10 n ++ rest) := by
    rcases toDigits_cases n with rfl | ⟨c, digits, written, other, _⟩
    · cases ends <;> rfl
    · rw [written, List.cons_append]
      unfold readNumber?
      split
      · next same => exact absurd (List.cons.inj same).1 other
      · next same => exact absurd (List.cons.inj same).1 other
      · next same => exact absurd (List.cons.inj same).1 other
      · rfl
  rw [decimal, readDecimal?_toDigits ends small]

theorem readScalar?_toDigits (ends : EndsValue rest) {n : Nat} (small : n < Nat.pow 2 63) :
    readScalar? (Nat.toDigits 10 n ++ rest) = some (.integer n, rest) := by
  have noDate : startsDate (Nat.toDigits 10 n ++ rest) = false :=
    not_marked ends (fun _ => isDigit_of_mem_toDigits) (.inl rfl) 4
  have noTime : startsTime (Nat.toDigits 10 n ++ rest) = false :=
    not_marked ends (fun _ => isDigit_of_mem_toDigits) (.inr rfl) 2
  rw [readScalar?, noDate, noTime]
  exact readNumber?_toDigits ends small

/-! ## Values -/

/-- What opens no array and no table is read as a string, a boolean or a number. -/
theorem readValue?_plain {c : Char} (noArray : c ≠ '[') (noTable : c ≠ '\x7b') (fuel depth : Nat) (cs : List Char) :
    readValue? (fuel + 1) depth (c :: cs) =
      if c = '"' ∨ c = '\'' then (readString? (c :: cs)).map fun (s, after) => (.string s, after)
      else if "true".toList.isPrefixOf (c :: cs) then some (.boolean true, cs.drop 3)
      else if "false".toList.isPrefixOf (c :: cs) then some (.boolean false, cs.drop 4)
      else readScalar? (c :: cs) := by
  rw [readValue?]
  · exact noArray
  · exact noTable

theorem exists_writeString (s : List Char) : ∃ quote cs, IsQuote quote ∧ writeString s = quote :: cs := by
  unfold writeString
  split
  · exact ⟨'"', _, .inl rfl, rfl⟩
  · exact ⟨'\'', _, .inr rfl, rfl⟩
  · exact ⟨'"', _, .inl rfl, rfl⟩
  · exact ⟨'\'', _, .inr rfl, rfl⟩

theorem readsAs_string (depth : Nat) (s : List Char) : ReadsAs depth (writeString s) (.string s) := by
  obtain ⟨quote, cs, kind, written⟩ := exists_writeString s
  refine ⟨⟨quote, cs, written, by rcases kind with rfl | rfl <;> rfl⟩, ?_⟩
  intro fuel rest enough ends
  have back := readString?_writeString s ends.apart
  have noArray : quote ≠ '[' := by rcases kind with rfl | rfl <;> decide
  have noTable : quote ≠ '\x7b' := by rcases kind with rfl | rfl <;> decide
  have quoted : quote = '"' ∨ quote = '\'' := kind
  rw [written, List.length_cons] at enough
  obtain ⟨fuel, rfl⟩ := Nat.exists_eq_add_one.2 (Nat.zero_lt_of_lt enough)
  rw [written, List.cons_append] at back ⊢
  rw [readValue?_plain noArray noTable, if_pos quoted, back]
  rfl

theorem readsAs_true (depth : Nat) : ReadsAs depth ['t', 'r', 'u', 'e'] (.boolean true) := by
  refine ⟨⟨_, _, rfl, rfl⟩, ?_⟩
  intro fuel rest enough ends
  obtain ⟨fuel, rfl⟩ := Nat.exists_eq_add_one.2 (Nat.zero_lt_of_lt enough)
  exact readValue?_plain (by decide) (by decide) fuel depth _

theorem readsAs_false (depth : Nat) : ReadsAs depth ['f', 'a', 'l', 's', 'e'] (.boolean false) := by
  refine ⟨⟨_, _, rfl, rfl⟩, ?_⟩
  intro fuel rest enough ends
  obtain ⟨fuel, rfl⟩ := Nat.exists_eq_add_one.2 (Nat.zero_lt_of_lt enough)
  exact readValue?_plain (by decide) (by decide) fuel depth _

theorem readsAs_integer (depth : Nat) {n : Nat} (small : n < Nat.pow 2 63) : ReadsAs depth (Nat.toDigits 10 n) (.integer n) := by
  obtain ⟨c, digits, written, digit⟩ := exists_toDigits n
  have solid : isBlank c = false := by
    have noSpace : c ≠ ' ' := ne_of_class digit rfl
    have noTab : c ≠ '\t' := ne_of_class digit rfl
    simp [isBlank, noSpace, noTab]
  refine ⟨⟨c, digits, written, solid⟩, ?_⟩
  intro fuel rest enough ends
  have back := readScalar?_toDigits ends small
  have noTrue : "true".toList.isPrefixOf (c :: (digits ++ rest)) = false := not_isPrefixOf (ne_of_class digit rfl) _ _
  have noFalse : "false".toList.isPrefixOf (c :: (digits ++ rest)) = false := not_isPrefixOf (ne_of_class digit rfl) _ _
  have noString : ¬(c = '"' ∨ c = '\'') := not_or.2 ⟨ne_of_class digit rfl, ne_of_class digit rfl⟩
  rw [written, List.length_cons] at enough
  obtain ⟨fuel, rfl⟩ := Nat.exists_eq_add_one.2 (Nat.zero_lt_of_lt enough)
  rw [written, List.cons_append] at back ⊢
  rw [readValue?_plain (ne_of_class digit rfl) (ne_of_class digit rfl), if_neg noString, noTrue, noFalse]
  exact back

end Datasheet.Toml
