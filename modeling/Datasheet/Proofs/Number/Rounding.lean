import Datasheet.Number.Extended
import Datasheet.Proofs.Number.Whole

/-! # Bounds of rounding

Rounding keeps the order of numbers and leaves the numbers of the format as they are, so a bound that is a number of the
format stays a bound. A rounded number is nearly the exact one.
-/

namespace Datasheet

namespace Binary64

theorem roundedQuotient_mul {k : Nat} (positive : 0 < k) (n d : Nat) :
    roundedQuotient (n * k) (d * k) = roundedQuotient n d := by
  have quotient : n * k / (d * k) = n / d := Nat.mul_div_mul_right _ _ positive
  have rest : n * k % (d * k) = n % d * k := Nat.mul_mod_mul_right _ _ _
  have above : d * k < 2 * (n % d * k) ↔ d < 2 * (n % d) := by
    rw [← Nat.mul_assoc]
    exact Nat.mul_lt_mul_right positive
  have tie : 2 * (n % d * k) = d * k ↔ 2 * (n % d) = d := by
    rw [← Nat.mul_assoc]
    exact Nat.mul_left_inj positive.ne'
  simp only [roundedQuotient, quotient, rest, above, tie]

theorem roundedQuotient_near {d : Nat} (positive : 0 < d) (n : Nat) :
    2 * (roundedQuotient n d * d) ≤ 2 * n + d ∧ 2 * n ≤ 2 * (roundedQuotient n d * d) + d := by
  have division := Nat.div_add_mod' n d
  have rest := Nat.mod_lt n positive
  rw [roundedQuotient]
  split
  next up =>
      rw [Nat.add_mul, Nat.one_mul]
      omega
  next down => omega

theorem roundedQuotient_cases (n d : Nat) : n / d ≤ roundedQuotient n d ∧ roundedQuotient n d ≤ n / d + 1 := by
  rw [roundedQuotient]
  split <;> omega

theorem roundedQuotient_mono {m n : Nat} (d : Nat) (le : m ≤ n) : roundedQuotient m d ≤ roundedQuotient n d := by
  have quotients : m / d ≤ n / d := Nat.div_le_div_right le
  rcases quotients.lt_or_eq with less | same
  · have first := (roundedQuotient_cases m d).2
    have second := (roundedQuotient_cases n d).1
    omega
  · have rests : m % d ≤ n % d := by
      have left := Nat.div_add_mod m d
      have right := Nat.div_add_mod n d
      rw [← same] at right
      omega
    simp only [roundedQuotient, same]
    split
    next up =>
        split
        next => exact Nat.le_refl _
        next down => omega
    next => split <;> omega

theorem roundedTo_mul {k : Nat} (positive : 0 < k) (digits n d : Nat) :
    roundedTo digits (n * k) (d * k) = roundedTo digits n d := by
  have quotient : n * k / (d * k) = n / d := Nat.mul_div_mul_right _ _ positive
  simp only [roundedTo, quotient]
  rw [Nat.mul_right_comm, roundedQuotient_mul positive]

/-- The unit of the last digit that is kept. -/
def unit (digits n d : Nat) : Nat := Nat.pow 2 ((n / d).log2 + 1 - digits)

theorem unit_pos (digits n d : Nat) : 0 < unit digits n d := Nat.pow_pos (by decide)

theorem roundedTo_eq (digits n d : Nat) :
    roundedTo digits n d = roundedQuotient n (d * unit digits n d) * unit digits n d := rfl

theorem roundedQuotient_pow {d : Nat} (positive : 0 < d) {e k : Nat} (le : e ≤ k) :
    roundedQuotient (d * 2 ^ k) (d * 2 ^ e) * 2 ^ e = 2 ^ k := by
  rw [Nat.mul_comm d, Nat.mul_comm d, roundedQuotient_mul positive]
  exact roundedQuotient_of_dvd (Nat.pow_pos (by decide)) (Nat.pow_dvd_pow 2 le)

theorem lt_mul_pow_log2 {d : Nat} (positive : 0 < d) (n : Nat) : n < d * 2 ^ ((n / d).log2 + 1) := by
  have quotient : n / d < 2 ^ ((n / d).log2 + 1) := Nat.lt_log2_self
  rw [Nat.div_lt_iff_lt_mul positive] at quotient
  rwa [Nat.mul_comm] at quotient

theorem mul_pow_log2_le {n d : Nat} (positive : n / d ≠ 0) : d * 2 ^ (n / d).log2 ≤ n := by
  calc d * 2 ^ (n / d).log2 ≤ d * (n / d) := Nat.mul_le_mul_left _ (Nat.log2_self_le positive)
    _ ≤ n := Nat.mul_div_le n d

/-- Rounding keeps the order. -/
theorem roundedTo_mono {digits d : Nat} (atLeastOne : 0 < digits) (positive : 0 < d) {m n : Nat} (le : m ≤ n) :
    roundedTo digits m d ≤ roundedTo digits n d := by
  have quotients : m / d ≤ n / d := Nat.div_le_div_right le
  have logs : (m / d).log2 ≤ (n / d).log2 := by
    rcases Nat.eq_zero_or_pos (m / d) with zero | atLeastOne
    · rw [zero]
      exact Nat.zero_le _
    · exact (Nat.le_log2 (by omega)).2 ((Nat.log2_self_le atLeastOne.ne').trans quotients)
  rcases logs.lt_or_eq with less | same
  · -- A power of two stands between the two numbers, and it is a number of the format.
    have first : roundedTo digits m d ≤ 2 ^ ((m / d).log2 + 1) := by
      have whole := roundedQuotient_pow positive (Nat.sub_le ((m / d).log2 + 1) digits)
      calc roundedTo digits m d
          ≤ roundedQuotient (d * 2 ^ ((m / d).log2 + 1)) (d * unit digits m d) * unit digits m d :=
            Nat.mul_le_mul_right _ (roundedQuotient_mono _ (lt_mul_pow_log2 positive m).le)
        _ = 2 ^ ((m / d).log2 + 1) := whole
    have second : 2 ^ (n / d).log2 ≤ roundedTo digits n d := by
      have below : (n / d).log2 + 1 - digits ≤ (n / d).log2 := by omega
      have nonzero : n / d ≠ 0 := by
        intro zero
        rw [zero, show Nat.log2 0 = 0 by decide] at less
        omega
      calc 2 ^ (n / d).log2
          = roundedQuotient (d * 2 ^ (n / d).log2) (d * unit digits n d) * unit digits n d :=
            (roundedQuotient_pow positive below).symm
        _ ≤ roundedTo digits n d := Nat.mul_le_mul_right _ (roundedQuotient_mono _ (mul_pow_log2_le nonzero))
    exact first.trans ((Nat.pow_le_pow_right (by decide) less).trans second)
  · have units : unit digits m d = unit digits n d := by rw [unit, unit, same]
    rw [roundedTo_eq, roundedTo_eq, units]
    exact Nat.mul_le_mul_right _ (roundedQuotient_mono _ le)

/-- A whole number of steps that the format keeps. -/
def IsKept (n : Nat) : Prop := roundedTo precision n 1 = n

theorem isKept_mul_pow {n : Nat} (small : n < 2 ^ 53) (k : Nat) : IsKept (n * 2 ^ k) := roundedTo_mul_pow small k

theorem IsKept.roundedTo_eq {c : Nat} (kept : IsKept c) {d : Nat} (positive : 0 < d) : roundedTo precision (c * d) d = c := by
  have scaled := roundedTo_mul positive precision c 1
  rwa [Nat.one_mul, kept] at scaled

theorem IsKept.roundedTo_le {c : Nat} (kept : IsKept c) {n d : Nat} (positive : 0 < d) (le : n ≤ c * d) :
    roundedTo precision n d ≤ c :=
  (roundedTo_mono (by decide) positive le).trans (kept.roundedTo_eq positive).le

theorem IsKept.le_roundedTo {c : Nat} (kept : IsKept c) {n d : Nat} (positive : 0 < d) (le : c * d ≤ n) :
    c ≤ roundedTo precision n d :=
  (kept.roundedTo_eq positive).ge.trans (roundedTo_mono (by decide) positive le)

theorem one_eq_pow {k : Nat} (same : k = 1074) : one = 2 ^ k := by
  subst same
  rfl

theorem mul_one_lt_overflow {n : Nat} (small : n < 2 ^ 53) : n * one < overflow := mul_pow_lt small (by decide)

/-- A unit is made of grains, and every number of grains that is not too large is kept. -/
theorem exists_grain : ∃ grain, one = 2 ^ 20 * grain ∧ ∀ n < 2 ^ 53, IsKept (n * grain) := by
  obtain ⟨k, same⟩ : ∃ k, 20 + k = 1074 := ⟨1054, rfl⟩
  refine ⟨2 ^ k, ?_, fun n small => isKept_mul_pow small k⟩
  rw [← Nat.pow_add]
  exact one_eq_pow same

/-- A rounded number is the exact one but for its fifty-third binary digit. -/
theorem roundedTo_near (n : Nat) :
    roundedTo precision n 1 * 2 ^ 53 ≤ n * (2 ^ 53 + 1) ∧ n * (2 ^ 53 - 1) ≤ roundedTo precision n 1 * 2 ^ 53 := by
  by_cases small : n < 2 ^ 53
  · have kept : roundedTo precision n 1 = n := by
      have unrounded := roundedTo_mul_pow small 0
      rwa [Nat.pow_zero, Nat.mul_one] at unrounded
    rw [kept]
    omega
  · have nonzero : n ≠ 0 := by
      rintro rfl
      exact small (by decide)
    have long : 53 ≤ n.log2 := (Nat.le_log2 nonzero).2 (Nat.le_of_not_lt small)
    -- The unit is a part of the number's greatest power of two.
    have share : unit precision n 1 * 2 ^ 52 ≤ n := by
      calc unit precision n 1 * 2 ^ 52 = 2 ^ ((n.log2 + 1 - 53) + 52) := by
            rw [unit, Nat.div_one, Nat.pow_add]
            rfl
        _ = 2 ^ n.log2 := by rw [show n.log2 + 1 - 53 + 52 = n.log2 by omega]
        _ ≤ n := Nat.log2_self_le nonzero
    have near := roundedQuotient_near (unit_pos precision n 1) n
    rw [roundedTo_eq, Nat.one_mul]
    omega

end Binary64

namespace Extended

open Binary64

/-- A number without a minus sign, by its count of steps. -/
abbrev counted (steps : Nat) : Extended := finite ⟨false, steps⟩

/-- A finite number stands between two counts of steps and has no minus sign, if it is finite at all. -/
inductive Between (low high : Nat) : Extended → Prop where
  | within {steps : Nat} (le : low ≤ steps) (le' : steps ≤ high) : Between low high (.finite ⟨false, steps⟩)
  | infinite {negative : Bool} : Between low high (.infinite negative)
  | undefined : Between low high .undefined

theorem nearest?_eq_some {negative : Bool} {n d : Nat} (below : roundedTo precision n d < overflow) :
    nearest? negative n d = some ⟨negative, roundedTo precision n d⟩ := by
  rw [nearest?]
  exact if_pos below

theorem nearest?_eq_none {negative : Bool} {n d : Nat} (wide : ¬roundedTo precision n d < overflow) :
    nearest? negative n d = none := by
  rw [nearest?]
  exact if_neg wide

theorem ofSteps_of_some {negative : Bool} {n d : Nat} {x : Binary64} (made : nearest? negative n d = some x) :
    ofSteps negative n d = finite x := by
  unfold ofSteps
  rw [made]

theorem ofSteps_of_none {negative : Bool} {n d : Nat} (tooLarge : nearest? negative n d = none) :
    ofSteps negative n d = infinite negative := by
  unfold ofSteps
  rw [tooLarge]

theorem ofSteps_mul {k : Nat} (positive : 0 < k) (negative : Bool) (n d : Nat) :
    ofSteps negative (n * k) (d * k) = ofSteps negative n d := by
  have same := roundedTo_mul positive precision n d
  by_cases below : roundedTo precision n d < overflow
  · rw [ofSteps_of_some (nearest?_eq_some below), ofSteps_of_some (nearest?_eq_some (same.symm ▸ below)), same]
  · rw [ofSteps_of_none (nearest?_eq_none below), ofSteps_of_none (nearest?_eq_none (same.symm ▸ below))]

theorem ofSteps_cases (n d : Nat) :
    (ofSteps false n d = counted (roundedTo precision n d) ∧ roundedTo precision n d < overflow)
      ∨ ofSteps false n d = infinite false := by
  by_cases below : roundedTo precision n d < overflow
  · exact .inl ⟨ofSteps_of_some (nearest?_eq_some below), below⟩
  · exact .inr (ofSteps_of_none (nearest?_eq_none below))

theorem ofSteps_kept {c : Nat} (kept : IsKept c) (below : c < overflow) {d : Nat} (positive : 0 < d) :
    ofSteps false (c * d) d = counted c := by
  have same := kept.roundedTo_eq positive
  rw [ofSteps_of_some (nearest?_eq_some (same.symm ▸ below)), same]

theorem ofSteps_zero : ofSteps false 0 1 = counted 0 := by
  have whole := nearest?_of_small false (by decide : 0 < 2 ^ 53)
  rw [Nat.zero_mul] at whole
  exact ofSteps_of_some whole

/-- Kept bounds of an exact number are bounds of the rounded one. -/
theorem between_ofSteps {low high n d : Nat} (keptLow : IsKept low) (keptHigh : IsKept high) (positive : 0 < d)
    (le : low * d ≤ n) (le' : n ≤ high * d) : (ofSteps false n d).Between low high := by
  rcases ofSteps_cases n d with ⟨same, _⟩ | same
  · rw [same]
    exact .within (keptLow.le_roundedTo positive le) (keptHigh.roundedTo_le positive le')
  · rw [same]
    exact .infinite

theorem add_counted (a b : Nat) : (counted a).add (counted b) = ofSteps false (a + b) 1 := by
  have total : (Binary64.mk false a).value + (Binary64.mk false b).value = ((a + b : Nat) : Int) := by
    rw [Int.natCast_add]
    rfl
  rw [add, total]
  by_cases zero : a + b = 0
  · rw [zero, ofSteps_zero]
    rfl
  · rw [if_neg (by omega), Int.natAbs_natCast, decide_eq_false (by omega)]

theorem sub_counted {a b : Nat} (le : b ≤ a) : (counted a).sub (counted b) = ofSteps false (a - b) 1 := by
  have total : (Binary64.mk false a).value + (Binary64.mk (!false) b).value = ((a - b : Nat) : Int) := by
    rw [Int.natCast_sub le]
    rfl
  rw [sub, neg, add, total]
  by_cases zero : a - b = 0
  · rw [zero, ofSteps_zero]
    rfl
  · rw [if_neg (by omega), Int.natAbs_natCast, decide_eq_false (by omega)]

theorem div_counted (a : Nat) {b : Nat} (positive : b ≠ 0) : (counted a).div (counted b) = ofSteps false (a * one) b := by
  rw [div, if_neg positive]
  rfl

theorem ofInt_small {n : Nat} (small : n < 2 ^ 53) : ofInt n = counted (n * one) := by
  have sign : decide ((n : Int) < 0) = false := decide_eq_false (by omega)
  rw [ofInt, sign, Int.natAbs_natCast, ofSteps_of_some (nearest?_of_small false small)]

theorem mul_whole (a : Nat) {n : Nat} (small : n < 2 ^ 53) : (counted a).mul (ofInt n) = ofSteps false (a * n) 1 := by
  have scaled := ofSteps_mul Binary64.one_pos false (a * n) 1
  rw [Nat.one_mul, Nat.mul_assoc] at scaled
  rw [ofInt_small small]
  exact scaled

/-! ## Bounds through sums and products -/

variable {low high : Nat} {x : Extended}

theorem Between.add_counted {low' high' : Nat} (between : x.Between low high) (keptLow : IsKept low') (keptHigh : IsKept high')
    (b : Nat) (le : low' ≤ low + b) (le' : high + b ≤ high') : (x.add (counted b)).Between low' high' := by
  cases between with
  | within below above =>
      rw [Extended.add_counted]
      exact between_ofSteps keptLow keptHigh Nat.one_pos (by omega) (by omega)
  | infinite => exact .infinite
  | undefined => exact .undefined

theorem Between.counted_add {low' high' : Nat} (between : x.Between low high) (keptLow : IsKept low') (keptHigh : IsKept high')
    (a : Nat) (le : low' ≤ a + low) (le' : a + high ≤ high') : ((counted a).add x).Between low' high' := by
  cases between with
  | within below above =>
      rw [Extended.add_counted]
      exact between_ofSteps keptLow keptHigh Nat.one_pos (by omega) (by omega)
  | infinite => exact .infinite
  | undefined => exact .undefined

theorem Between.mul_whole {low' high' n : Nat} (between : x.Between low high) (keptLow : IsKept low')
    (keptHigh : IsKept high') (small : n < 2 ^ 53) (positive : n ≠ 0) (le : low' ≤ low * n) (le' : high * n ≤ high') :
    (x.mul (ofInt n)).Between low' high' := by
  cases between with
  | within below above =>
      rw [Extended.mul_whole _ small]
      refine between_ofSteps keptLow keptHigh Nat.one_pos ?_ ?_
      · rw [Nat.mul_one]
        exact le.trans (Nat.mul_le_mul_right _ below)
      · rw [Nat.mul_one]
        exact (Nat.mul_le_mul_right _ above).trans le'
  | infinite =>
      rw [ofInt_small small, mul, if_neg (Nat.mul_ne_zero positive Binary64.one_pos.ne')]
      exact .infinite
  | undefined => exact .undefined

theorem Between.whole {m n : Nat} {w : Int} (between : x.Between (m * one) high) (below : high < (n + 1) * one)
    (whole : x.whole? = some w) : (m : Int) ≤ w ∧ w ≤ n := by
  cases between with
  | @within steps le le' =>
      have value : ((steps / one : Nat) : Int) = w := by
        rw [Int.natCast_ediv, ← Int.tdiv_eq_ediv_of_nonneg (Int.natCast_nonneg _)]
        exact Option.some.inj whole
      have above : m ≤ steps / one := (Nat.le_div_iff_mul_le Binary64.one_pos).2 le
      have under : steps / one < n + 1 := (Nat.div_lt_iff_lt_mul Binary64.one_pos).2 (Nat.lt_of_le_of_lt le' below)
      omega
  | infinite | undefined => exact absurd whole (by simp [whole?])

end Extended

end Datasheet
