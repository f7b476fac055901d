import Datasheet.Proofs.Number.Whole
import Datasheet.Number.Extended

/-! # Numbers have a text

The shortest text of a number is never empty. It would be empty for a coefficient of zero right after the point, but
zero is read back as no positive number, and the search for a grid does not run out at that place: a number that large
is whole but for less than half of its last step, and so it is read back from its whole part.
-/

namespace Datasheet.Binary64

variable {steps fuel coefficient : Nat} {start place : Int}

/-! ## The grid of a number -/

theorem leadingPlace_le : leadingPlace steps fuel start ≤ start := by
  induction fuel generalizing start with
  | zero => exact Int.le_refl _
  | succ fuel ih =>
      rw [leadingPlace]
      split
      next => exact Int.le_refl _
      next => exact Int.le_trans ih (by omega)

/-- The search ends at a decimal that reads back, or it has tried all grids without finding one. -/
theorem firstGrid_cases (steps fuel : Nat) (start : Int) :
    (∃ coefficient place, firstGrid steps fuel start = (coefficient, place) ∧ onGrid? steps place = some coefficient)
      ∨ firstGrid steps fuel start = (0, start - fuel)
        ∧ ∀ place, start - fuel < place → place ≤ start → onGrid? steps place = none := by
  induction fuel generalizing start with
  | zero => exact .inr ⟨by simp [firstGrid], fun place low high => by omega⟩
  | succ fuel ih =>
      rw [firstGrid]
      cases found : onGrid? steps start with
      | some coefficient => exact .inl ⟨coefficient, start, rfl, found⟩
      | none =>
          rcases ih (start - 1) with hit | ⟨ended, missed⟩
          · exact .inl hit
          · refine .inr ⟨by simpa [Int.sub_sub, Int.add_comm] using ended, fun place low high => ?_⟩
            by_cases here : place = start
            · exact here ▸ found
            · exact missed place (by omega) (by omega)

theorem readsBack_of_onGrid? (found : onGrid? steps place = some coefficient) :
    readsBack steps coefficient place = true := by
  simp only [onGrid?] at found
  split at found
  next first second =>
      obtain rfl := Option.some.inj found
      split
      · exact first
      · exact second
  next first second => exact Option.some.inj found ▸ first
  next first second => exact Option.some.inj found ▸ second
  next => cases found

/-! ## Gaps -/

theorem unit_le (positive : 0 < steps) : Nat.pow 2 (steps.log2 - 52) ≤ steps :=
  Nat.le_trans (Nat.pow_le_pow_right (by decide) (Nat.sub_le _ _)) (Nat.log2_self_le positive.ne')

theorem gapBelow_le : gapBelow steps ≤ 2 * Nat.pow 2 (steps.log2 - 52) := by
  simp only [gapBelow]
  split <;> omega

theorem readsBack_zero (positive : 0 < steps) (place : Int) : readsBack steps 0 place = false := by
  have scale : 0 < Nat.pow 10 (-place).toNat := Nat.pow_pos (by decide)
  have room : 0 < 4 * steps - gapBelow steps := by
    have below := Nat.le_trans gapBelow_le (Nat.mul_le_mul_left 2 (unit_le positive))
    omega
  have low : 0 < (4 * steps - gapBelow steps) * Nat.pow 10 (-place).toNat := Nat.mul_pos room scale
  simp only [readsBack, Nat.mul_zero, Nat.zero_mul, Nat.le_zero_eq, low.ne', Nat.not_lt_zero, decide_false,
    Bool.false_and, ite_self]

theorem mul_one_le {n k : Nat} (few : n ≤ 2 ^ k) : n * one ≤ 2 ^ (k + 1074) := by
  rw [Nat.pow_add]
  exact Nat.mul_le_mul_right _ few

/-- The whole part of a number from 2⁵³ on is read back as the number. -/
theorem readsBack_whole (large : 1127 ≤ steps.log2) : readsBack steps (steps / one) 0 = true := by
  have unit : 2 * one ≤ Nat.pow 2 (steps.log2 - 52) := by
    have inside : 2 ≤ 2 ^ (steps.log2 - 52 - 1074) := Nat.le_self_pow (by omega) 2
    have scaled := mul_one_le inside
    rwa [show steps.log2 - 52 - 1074 + 1074 = steps.log2 - 52 by omega] at scaled
  have positive : 0 < one := one_pos
  have whole := Nat.div_add_mod steps one
  have rest := Nat.mod_lt steps positive
  -- Powers of two are whole, and below any other number the gap is wider than four units.
  have below : 4 * (steps % one) < gapBelow steps := by
    simp only [gapBelow]
    split
    next power =>
        have divides : one ∣ steps := by
          rw [power.2]
          exact Nat.pow_dvd_pow 2 (by omega)
        rw [Nat.mod_eq_zero_of_dvd divides]
        omega
    next => omega
  have room : gapBelow steps < 4 * steps := by
    have atLeastOne : 0 < steps := Nat.pos_of_ne_zero fun zero => by simp [zero] at large
    have inside := Nat.le_trans gapBelow_le (Nat.mul_le_mul_left 2 (unit_le atLeastOne))
    omega
  have above : 0 < gapAbove steps := Nat.mul_pos (by decide) (Nat.pow_pos (by decide))
  have decimal : 4 * (steps / one) * Nat.pow 10 (0 : Int).toNat * one + 4 * (steps % one) = 4 * steps := by
    have flat : 4 * (steps / one) * Nat.pow 10 (0 : Int).toNat * one = 4 * (one * (steps / one)) := by
      rw [show Nat.pow 10 (0 : Int).toNat = 1 from rfl, Nat.mul_one, Nat.mul_assoc, Nat.mul_comm one]
    omega
  have scale : Nat.pow 10 (-(0 : Int)).toNat = 1 := rfl
  simp only [readsBack, scale, Nat.mul_one]
  split
  · simp only [Bool.and_eq_true, decide_eq_true_eq]
    omega
  · simp only [Bool.and_eq_true, decide_eq_true_eq]
    omega

theorem onGrid?_whole (large : 1127 ≤ steps.log2) : onGrid? steps 0 ≠ none := by
  have here : readsBack steps (steps * Nat.pow 10 (-(0 : Int)).toNat / (Nat.pow 10 (0 : Int).toNat * one)) 0 = true := by
    rw [show Nat.pow 10 (-(0 : Int)).toNat = 1 from rfl, show Nat.pow 10 (0 : Int).toNat = 1 from rfl, Nat.mul_one,
      Nat.one_mul]
    exact readsBack_whole large
  simp only [onGrid?, here]
  cases readsBack steps _ 0 <;> simp

theorem shortest_ne (positive : 0 < steps) : shortest steps ≠ (0, -1) := by
  intro same
  rw [shortest] at same
  rcases firstGrid_cases steps 18 (leadingPlace steps 4 (leadingGuess steps)) with ⟨c, p, made, found⟩ | ⟨ended, missed⟩
  · obtain ⟨rfl, rfl⟩ : c = 0 ∧ p = -1 := by simpa using made.symm.trans same
    simpa [readsBack_zero positive] using readsBack_of_onGrid? found
  · have start : leadingPlace steps 4 (leadingGuess steps) = 17 := by
      have place := congrArg Prod.snd (ended.symm.trans same)
      simp only at place
      omega
    have guess : 17 ≤ leadingGuess steps := start ▸ leadingPlace_le
    have large : 1127 ≤ steps.log2 := by
      rw [leadingGuess] at guess
      omega
    exact onGrid?_whole large (missed 0 (by omega) (by omega))

/-! ## Texts -/

theorem dropZeros_of_ne {digits : List Char} (other : ∃ c ∈ digits, c ≠ '0') : (dropZeros digits).2 ≠ [] := by
  induction digits with
  | nil => simp at other
  | cons c digits ih =>
      by_cases zero : c = '0'
      · subst zero
        have rest : ∃ c ∈ digits, c ≠ '0' := by simpa using other
        exact ih rest
      · rw [dropZeros]
        · simp
        · intro rest same
          exact zero (List.cons.inj same).1

theorem dropZeros_toDigits (positive : coefficient ≠ 0) : (dropZeros (Nat.toDigits 10 coefficient).reverse).2 ≠ [] := by
  refine dropZeros_of_ne ?_
  by_contra only
  have zeros : ∀ c ∈ Nat.toDigits 10 coefficient, c = '0' := by simpa using only
  exact positive ((Decimal.digitsValue_toDigits coefficient).symm.trans (Decimal.digitsValue_zeros zeros))

theorem positional_ne_nil (other : (coefficient, place) ≠ (0, -1)) : positional coefficient place ≠ [] := by
  by_cases zero : coefficient = 0
  · subst zero
    have apart : place ≠ -1 := fun same => other (by rw [same])
    have zeros : dropZeros (Nat.toDigits 10 0).reverse = (1, []) := by decide
    simp only [positional, zeros]
    split
    next => simp; omega
    next => simp
  · have digits := dropZeros_toDigits zero
    simp only [positional]
    split
    next => simp [digits]
    next =>
        split
        next => simp
        next => simp

theorem text_ne_nil (x : Binary64) : x.text ≠ [] := by
  have digits : (if x.steps = 0 then ['0'] else positional (shortest x.steps).1 (shortest x.steps).2) ≠ [] := by
    split
    next => simp
    next nonzero => exact positional_ne_nil (shortest_ne (Nat.pos_of_ne_zero nonzero))
  rw [text]
  split
  · simp
  · exact digits

end Datasheet.Binary64

namespace Datasheet

theorem Extended.text_ne_nil (x : Extended) : x.text ≠ [] := by
  cases x with
  | finite x => exact x.text_ne_nil
  | infinite negative => cases negative <;> decide
  | undefined => decide

end Datasheet
