import Datasheet.Proofs.Number.Whole

/-! # Figures

A number is written with digits, signs, a point and the letter of its exponent. No part of the reader takes any other
character, so a text that holds one is no number.
-/

namespace Datasheet

theorem mem_dropWhile_of_not {p : Char → Bool} {c : Char} {cs : List Char} (other : p c = false) (member : c ∈ cs) :
    c ∈ cs.dropWhile p := by
  rw [← List.takeWhile_append_dropWhile (p := p) (l := cs)] at member
  rcases List.mem_append.1 member with front | rest
  · exact absurd (List.mem_takeWhile_imp front) (by simp [other])
  · exact rest

namespace Decimal

/-- A character that no notation of a number has. -/
def IsForeign (c : Char) : Prop := c.isDigit = false ∧ c ∉ ['+', '-', '.', 'e', 'E']

instance (c : Char) : Decidable (IsForeign c) :=
  inferInstanceAs (Decidable (c.isDigit = false ∧ c ∉ ['+', '-', '.', 'e', 'E']))

variable {c : Char} {cs : List Char}

namespace IsForeign

theorem mem_digits (foreign : IsForeign c) (member : c ∈ cs) : c ∈ (digits cs).2 := by
  rw [digits, List.span_eq_takeWhile_dropWhile]
  exact mem_dropWhile_of_not foreign.1 member

theorem mem_sign (foreign : IsForeign c) (member : c ∈ cs) : c ∈ (sign cs).2 := by
  have other : c ≠ '-' ∧ c ≠ '+' := ⟨fun same => foreign.2 (by simp [same]), fun same => foreign.2 (by simp [same])⟩
  rcases sign_cases cs with ⟨same, _⟩ | ⟨same, _⟩ | ⟨same, _⟩
  · rw [same] at member
    exact (List.mem_cons.1 member).resolve_left other.1
  · rw [same] at member
    exact (List.mem_cons.1 member).resolve_left other.2
  · rwa [same] at member

theorem mem_fraction (foreign : IsForeign c) (member : c ∈ cs) : c ∈ (fraction cs).2 := by
  have other : c ≠ '.' := fun same => foreign.2 (by simp [same])
  unfold fraction
  split
  next => exact foreign.mem_digits ((List.mem_cons.1 member).resolve_left other)
  next => exact member

theorem exponent?_eq_none (foreign : IsForeign c) (member : c ∈ cs) : exponent? cs = none := by
  cases cs with
  | nil => exact absurd member (by simp)
  | cons letter rest =>
      rw [exponent?]
      split
      next exponent =>
          have other : c ≠ letter := by
            rintro rfl
            rcases exponent with rfl | rfl <;> exact absurd foreign (by decide)
          have later := foreign.mem_digits (foreign.mem_sign ((List.mem_cons.1 member).resolve_left other))
          generalize sign rest = signed at later ⊢
          obtain ⟨negative, unsigned⟩ := signed
          simp only at later ⊢
          split
          next => rfl
          next same => exact absurd later (by simp [same])
          next => rfl
      next => rfl

theorem ofText?_eq_none (foreign : IsForeign c) (member : c ∈ cs) : ofText? cs = none := by
  have rest := foreign.mem_fraction (foreign.mem_digits (foreign.mem_sign member))
  simp only [ofText?]
  split
  next => rfl
  next => rw [foreign.exponent?_eq_none rest]; rfl

end IsForeign

end Decimal

end Datasheet
