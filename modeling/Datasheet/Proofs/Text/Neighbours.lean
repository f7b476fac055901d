import Mathlib.Data.List.Infix
import Datasheet.Proofs.Text.Folding

/-! # Lower case between neighbours

A text is put in lower case character by character, and only a capital sigma looks at what stands around it: at the end
of a word it takes another small form than inside of one. So a part of a text has the lower-case form that it has by
itself exactly if its neighbours change the form of none of its sigmas.
-/

namespace Datasheet.Text

/-- The lower-case form of a character after the characters `before`, nearest first, and in front of `after`. -/
def lowerAt (before after : List Char) (c : Char) : List Char :=
  if c.toNat = 0x3A3 then [Char.ofNat (if sigmaIsFinal before after then 0x3C2 else 0x3C3)] else lowerChar c

/-- The lower-case form of a text after the characters `before`, nearest first, and in front of `after`. -/
def lowercaseBetween (before after : List Char) : List Char → List Char
  | [] => []
  | c :: rest => lowerAt before (rest ++ after) c ++ lowercaseBetween (c :: before) after rest

/-- Beside these neighbours each capital sigma of a text takes the form that it takes without them. -/
def KeepsSigmas (front text back : List Char) : Prop :=
  ∀ before after, text = before ++ 'Σ' :: after →
    sigmaIsFinal (before.reverse ++ front.reverse) (after ++ back) = sigmaIsFinal before.reverse after

variable {front text back before after : List Char} {c : Char}

theorem keepsSigmas_of_not_mem (noSigma : 'Σ' ∉ text) : KeepsSigmas front text back := by
  rintro before after rfl
  exact absurd (by simp) noSigma

theorem keepsSigmas_alone (text : List Char) : KeepsSigmas [] text [] := by
  intro before after _
  simp

/-! ## One character -/

theorem toNat_eq_sigma_iff : c.toNat = 0x3A3 ↔ c = 'Σ' := by
  constructor
  · exact fun code => char_ext code
  · rintro rfl
    rfl

theorem length_lowerAt (before after before' after' : List Char) (c : Char) :
    (lowerAt before after c).length = (lowerAt before' after' c).length := by
  rw [lowerAt, lowerAt]
  split <;> rfl

/-- Two small sigmas are the same only if both end a word or neither does. -/
theorem lowerAt_eq_iff {before' after' : List Char} : lowerAt before after c = lowerAt before' after' c
    ↔ (c = 'Σ' → sigmaIsFinal before after = sigmaIsFinal before' after') := by
  have apart : Char.ofNat 0x3C2 ≠ Char.ofNat 0x3C3 := by decide
  rw [lowerAt, lowerAt, ← toNat_eq_sigma_iff]
  by_cases sigma : c.toNat = 0x3A3
  · rw [if_pos sigma, if_pos sigma, List.singleton_inj]
    cases sigmaIsFinal before after <;> cases sigmaIsFinal before' after' <;> simp [sigma, apart, apart.symm]
  · simp [sigma]

/-! ## Texts -/

theorem lowercaseFrom_append (before text back : List Char) : lowercaseFrom before (text ++ back)
    = lowercaseBetween before back text ++ lowercaseFrom (text.reverse ++ before) back := by
  induction text generalizing before with
  | nil => rfl
  | cons c text ih =>
      rw [List.cons_append, lowercaseFrom, ih, lowercaseBetween, lowerAt, List.append_assoc, List.reverse_cons,
        List.append_assoc, List.singleton_append]

theorem lowercase_eq (text : List Char) : lowercase text = lowercaseBetween [] [] text := by
  simpa [lowercase, lowercaseFrom] using lowercaseFrom_append [] text []

theorem lowercase_append (front text back : List Char) : lowercase (front ++ (text ++ back))
    = lowercaseBetween [] (text ++ back) front
      ++ (lowercaseBetween front.reverse back text ++ lowercaseFrom (text.reverse ++ front.reverse) back) := by
  rw [lowercase, lowercaseFrom_append, lowercaseFrom_append, List.append_nil]

theorem length_lowercaseBetween (before after before' after' text : List Char) :
    (lowercaseBetween before after text).length = (lowercaseBetween before' after' text).length := by
  induction text generalizing before before' with
  | nil => rfl
  | cons c text ih =>
      rw [lowercaseBetween, lowercaseBetween, List.length_append, List.length_append,
        length_lowerAt before (text ++ after) before' (text ++ after') c, ih]

theorem length_lowercase (before after text : List Char) :
    (lowercase text).length = (lowercaseBetween before after text).length := by
  rw [lowercase_eq]
  exact length_lowercaseBetween _ _ _ _ text

/-- A part of a text has its own lower-case form exactly if its neighbours leave its sigmas alone. -/
theorem lowercaseBetween_eq_iff : lowercaseBetween front.reverse back text = lowercase text ↔ KeepsSigmas front text back := by
  have started (start : List Char) : lowercaseBetween (start ++ front.reverse) back text = lowercaseBetween start [] text
      ↔ ∀ before after, text = before ++ 'Σ' :: after →
        sigmaIsFinal (before.reverse ++ (start ++ front.reverse)) (after ++ back)
          = sigmaIsFinal (before.reverse ++ start) after := by
    induction text generalizing start with
    | nil => simp [lowercaseBetween]
    | cons c text ih =>
        have first := length_lowerAt (start ++ front.reverse) (text ++ back) start (text ++ []) c
        have parts : lowercaseBetween (start ++ front.reverse) back (c :: text) = lowercaseBetween start [] (c :: text)
            ↔ lowerAt (start ++ front.reverse) (text ++ back) c = lowerAt start (text ++ []) c
              ∧ lowercaseBetween (c :: start ++ front.reverse) back text = lowercaseBetween (c :: start) [] text :=
          ⟨fun same => List.append_inj same first, fun same => congrArg₂ (· ++ ·) same.1 same.2⟩
        rw [parts, lowerAt_eq_iff, ih, List.append_nil]
        constructor
        · rintro ⟨here, later⟩ before after split
          rcases List.cons_eq_append_iff.1 split with ⟨rfl, same⟩ | ⟨before, rfl, same⟩
          · obtain ⟨rfl, rfl⟩ := List.cons.inj same
            exact here rfl
          · simpa using later before after same
        · intro all
          refine ⟨?_, fun before after split => ?_⟩
          · rintro rfl
            exact all [] text rfl
          · simpa using all (c :: before) after (by rw [split]; rfl)
  rw [lowercase_eq, KeepsSigmas]
  simpa using started []

instance (front text back : List Char) : Decidable (KeepsSigmas front text back) :=
  decidable_of_iff _ lowercaseBetween_eq_iff

/-! ## Parts of texts -/

theorem KeepsSigmas.infix_lowercase (keeps : KeepsSigmas front text back) :
    lowercase text <:+: lowercase (front ++ (text ++ back)) := by
  rw [lowercase_append, lowercaseBetween_eq_iff.2 keeps, ← List.append_assoc]
  exact List.infix_append _ _ _

theorem lowercase_prefix_iff : lowercase text <+: lowercase (text ++ back) ↔ KeepsSigmas [] text back := by
  have whole := lowercase_append [] text back
  rw [List.nil_append] at whole
  rw [whole, ← lowercaseBetween_eq_iff]
  constructor
  · intro starts
    have longest := List.prefix_append (lowercaseBetween [] back text) (lowercaseFrom text.reverse back)
    have length := length_lowercase [] back text
    rw [List.reverse_nil, List.append_nil, lowercaseBetween, List.nil_append] at starts
    exact ((List.prefix_of_prefix_length_le starts longest length.le).eq_of_length length).symm
  · intro same
    rw [same]
    exact List.prefix_append _ _

theorem lowercase_suffix_iff : lowercase text <:+ lowercase (front ++ text) ↔ KeepsSigmas front text [] := by
  have whole := lowercase_append front text []
  rw [List.append_nil] at whole
  rw [whole, ← lowercaseBetween_eq_iff, lowercaseFrom, List.append_nil]
  constructor
  · intro ends
    have longest := List.suffix_append (lowercaseBetween [] text front) (lowercaseBetween front.reverse [] text)
    have length := length_lowercase front.reverse [] text
    exact ((List.suffix_of_suffix_length_le ends longest length.le).eq_of_length length).symm
  · intro same
    rw [same]
    exact List.suffix_append _ _

end Datasheet.Text
