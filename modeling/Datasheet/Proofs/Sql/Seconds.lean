import Mathlib.Data.List.Induction
import Mathlib.Tactic.Linarith
import Mathlib.Tactic.Ring
import Datasheet.Proofs.Number.Rounding
import Datasheet.Sql.Engine.Day

/-! # Seconds of the engine

The engine reads a fraction of a second digit by digit in rounded arithmetic, and rounds the seconds to milliseconds last.
However long the fraction is, the milliseconds are off by one at most from those that its first three digits tell.
-/

namespace Datasheet.Sql.Stamp

open Extended Binary64

/-! ## Fractions -/

/-- Reads one more digit of a fraction. -/
def fractionStep (state : Extended × Extended) (c : Char) : Extended × Extended :=
  (((state.1.mul (.ofInt 10)).add (.ofInt c.toNat)).sub (.ofInt 48), state.2.mul (.ofInt 10))

theorem fractionSteps_eq (digits : List Char) :
    fractionSteps digits = digits.foldl fractionStep (.ofInt 0, .ofInt 1) := rfl

theorem ofInt_ten : Extended.ofInt 10 = counted (10 * one) := ofInt_small (n := 10) (by decide)

theorem mul_ten (a : Nat) : (counted a).mul (.ofInt 10) = ofSteps false (a * 10) 1 := mul_whole (n := 10) a (by decide)

theorem infinite_mul_ten : (infinite false).mul (.ofInt 10) = infinite false := by
  rw [ofInt_ten, mul, if_neg (Nat.mul_ne_zero (by decide) Binary64.one_pos.ne')]
  rfl

theorem ofInt_fortyEight : Extended.ofInt 48 = counted (48 * one) := ofInt_small (n := 48) (by decide)

theorem ofSteps_small {n : Nat} (small : n < 2 ^ 53) : ofSteps false (n * one) 1 = counted (n * one) :=
  ofSteps_of_some (nearest?_of_small false small)

theorem fractionStep_small {n k : Nat} (small : n < 10 ^ 14) (small' : k < 10 ^ 14) {c : Char} (digit : c.isDigit = true) :
    fractionStep (counted (n * one), counted (k * one)) c
      = (counted ((10 * n + Decimal.digitValue c) * one), counted (k * 10 * one)) := by
  have code := Decimal.toNat_digit digit
  have value := Decimal.digitValue_le digit
  have product {m : Nat} (small : m * 10 < 2 ^ 53) : (counted (m * one)).mul (.ofInt 10) = counted (m * 10 * one) := by
    rw [mul_ten, Nat.mul_right_comm, ofSteps_small small]
  have sum : (counted (n * 10 * one)).add (.ofInt c.toNat) = counted ((n * 10 + c.toNat) * one) := by
    rw [ofInt_small (by omega), add_counted, ← Nat.add_mul, ofSteps_small (by omega)]
  have rest : (counted ((n * 10 + c.toNat) * one)).sub (.ofInt 48) = counted ((10 * n + Decimal.digitValue c) * one) := by
    have digitOnly : n * 10 + c.toNat - 48 = 10 * n + Decimal.digitValue c := by omega
    rw [ofInt_fortyEight, sub_counted (Nat.mul_le_mul_right _ (by omega)), ← Nat.sub_mul, digitOnly,
      ofSteps_small (by omega)]
  rw [fractionStep, product (by omega), product (by omega), sum, rest]

/-- A fraction with few digits is read exactly. -/
theorem fractionSteps_few {digits : List Char} (all : ∀ c ∈ digits, c.isDigit = true) (few : digits.length ≤ 14) :
    fractionSteps digits = (counted (Decimal.digitsValue 0 digits * one), counted (10 ^ digits.length * one)) := by
  induction digits using List.reverseRecOn with
  | nil =>
      have zero : Extended.ofInt 0 = counted (0 * one) := ofInt_small (n := 0) (by decide)
      have unit : Extended.ofInt 1 = counted (1 * one) := ofInt_small (n := 1) (by decide)
      rw [fractionSteps_eq, List.foldl_nil, zero, unit, Decimal.digitsValue, List.foldl_nil, List.length_nil, Nat.pow_zero]
  | append_singleton digits c ih =>
      rw [List.length_append, List.length_singleton] at few
      obtain ⟨front, last⟩ := List.forall_mem_append.1 all
      have value := Decimal.digitsValue_lt front 0
      have power : 10 ^ digits.length ≤ 10 ^ 13 := Nat.pow_le_pow_right (by decide) (by omega)
      rw [fractionSteps_eq, List.foldl_append, ← fractionSteps_eq, ih front (by omega), List.foldl_cons, List.foldl_nil,
        fractionStep_small (by omega) (by omega) (last c (List.mem_singleton_self c)), Decimal.digitsValue_append,
        List.length_append, List.length_singleton, Nat.pow_succ]
      rfl

/-- Two counts of steps, nearly the digits of a fraction after the first three and the power of ten below it. -/
structure IsNear (first k n s : Nat) : Prop where
  wide : 8 ^ k * one ≤ s
  below : s < overflow
  near : (1000 * n + 1002 * one) * 2 ^ 40 ≤ s * ((first + 1) * 2 ^ 40 + 2 ^ 35 + k)

theorem pow_le {k m n : Nat} (le : m ≤ 3 * k + n) : 2 ^ m ≤ 8 ^ k * 2 ^ n := by
  calc 2 ^ m ≤ 2 ^ (3 * k + n) := Nat.pow_le_pow_right (by decide) le
    _ = 8 ^ k * 2 ^ n := by rw [Nat.pow_add, Nat.pow_mul]

theorem IsNear.few {first k n s : Nat} (near : IsNear first k n s) : k < 342 := by
  by_contra many
  have wide : overflow ≤ 8 ^ k * one := pow_le (by omega)
  exact absurd near.below (Nat.not_lt.2 (wide.trans near.wide))

theorem isKept_eight (k : Nat) : IsKept (8 ^ k * one) := by
  have power := isKept_mul_pow (n := 1) (by decide) (3 * k + 1074)
  rwa [Nat.one_mul, Nat.pow_add, Nat.pow_mul, ← one_eq_pow rfl] at power

/-- One more digit makes the rounded number less than ten times as large, but for the digit and the errors of rounding. -/
theorem digit_step {unit n a b c code : Nat} (small : code ≤ 57) (product : a * 2 ^ 53 ≤ n * 10 * (2 ^ 53 + 1))
    (sum : b * 2 ^ 53 ≤ (a + code * unit) * (2 ^ 53 + 1)) (rest : c * 2 ^ 53 ≤ (b - 48 * unit) * (2 ^ 53 + 1))
    (enough : 48 * unit ≤ b) : (1000 * c + 1002 * unit) * 2 ^ 51 ≤ 10 * (1000 * n + 1002 * unit) * (2 ^ 51 + 1) := by
  have codes : code * unit ≤ 57 * unit := Nat.mul_le_mul_right _ small
  obtain ⟨d, rfl⟩ := Nat.exists_eq_add_of_le enough
  rw [Nat.add_sub_cancel_left] at rest
  linarith

/-- A bound that is not too large takes in the errors of one step if it grows by one. -/
theorem bound_step {x x' s s' bound : Nat} (le : x * 2 ^ 40 ≤ s * bound) (small : bound ≤ 2 ^ 50)
    (up : x' * 2 ^ 51 ≤ 10 * x * (2 ^ 51 + 1)) (down : s * 10 * (2 ^ 53 - 1) ≤ s' * 2 ^ 53) :
    x' * 2 ^ 40 ≤ s' * (bound + 1) := by
  have room : 2 ^ 53 * bound * (2 ^ 51 + 1) ≤ (bound + 1) * (2 ^ 51 * (2 ^ 53 - 1)) := by
    norm_num only at small ⊢
    linarith
  refine Nat.le_of_mul_le_mul_right (c := 2 ^ 51 * (2 ^ 53 - 1)) ?_ (by decide)
  calc x' * 2 ^ 40 * (2 ^ 51 * (2 ^ 53 - 1)) = x' * 2 ^ 51 * (2 ^ 40 * (2 ^ 53 - 1)) := by ring
    _ ≤ 10 * x * (2 ^ 51 + 1) * (2 ^ 40 * (2 ^ 53 - 1)) := Nat.mul_le_mul_right _ up
    _ = x * 2 ^ 40 * (10 * (2 ^ 51 + 1) * (2 ^ 53 - 1)) := by ring
    _ ≤ s * bound * (10 * (2 ^ 51 + 1) * (2 ^ 53 - 1)) := Nat.mul_le_mul_right _ le
    _ = s * 10 * (2 ^ 53 - 1) * (bound * (2 ^ 51 + 1)) := by ring
    _ ≤ s' * 2 ^ 53 * (bound * (2 ^ 51 + 1)) := Nat.mul_le_mul_right _ down
    _ = s' * (2 ^ 53 * bound * (2 ^ 51 + 1)) := by ring
    _ ≤ s' * ((bound + 1) * (2 ^ 51 * (2 ^ 53 - 1))) := Nat.mul_le_mul_left _ room
    _ = s' * (bound + 1) * (2 ^ 51 * (2 ^ 53 - 1)) := by ring

theorem number_step (n : Nat) {c : Char} (digit : c.isDigit = true) :
    (((counted n).mul (.ofInt 10)).add (.ofInt c.toNat)).sub (.ofInt 48) = infinite false
      ∨ ∃ m, (((counted n).mul (.ofInt 10)).add (.ofInt c.toNat)).sub (.ofInt 48) = counted m
        ∧ (1000 * m + 1002 * one) * 2 ^ 51 ≤ 10 * (1000 * n + 1002 * one) * (2 ^ 51 + 1) := by
  have code := Decimal.toNat_digit digit
  have value := Decimal.digitValue_le digit
  have char : Extended.ofInt c.toNat = counted (c.toNat * one) := ofInt_small (by omega)
  rw [mul_ten, char, ofInt_fortyEight]
  rcases ofSteps_cases (n * 10) 1 with ⟨product, _⟩ | product
  · rw [product, add_counted]
    rcases ofSteps_cases (roundedTo precision (n * 10) 1 + c.toNat * one) 1 with ⟨sum, _⟩ | sum
    · have kept : IsKept (48 * one) := by
        rw [one_eq_pow rfl]
        exact isKept_mul_pow (by decide) 1074
      have enough : 48 * one ≤ roundedTo precision (roundedTo precision (n * 10) 1 + c.toNat * one) 1 := by
        refine kept.le_roundedTo Nat.one_pos ?_
        have codes : 48 * one ≤ c.toNat * one := Nat.mul_le_mul_right _ (by omega)
        omega
      rw [sum, sub_counted enough]
      rcases ofSteps_cases (roundedTo precision (roundedTo precision (n * 10) 1 + c.toNat * one) 1 - 48 * one) 1 with
        ⟨rest, _⟩ | rest
      · exact .inr ⟨_, rest, digit_step (by omega) (roundedTo_near _).1 (roundedTo_near _).1 (roundedTo_near _).1 enough⟩
      · exact .inl rest
    · rw [sum]
      exact .inl rfl
  · rw [product]
    exact .inl rfl

theorem scale_step (s : Nat) :
    (counted s).mul (.ofInt 10) = infinite false
      ∨ ∃ s', (counted s).mul (.ofInt 10) = counted s' ∧ s' < overflow ∧ s * 10 * (2 ^ 53 - 1) ≤ s' * 2 ^ 53
        ∧ ∀ k, 8 ^ k * one ≤ s → 8 ^ (k + 1) * one ≤ s' := by
  rw [mul_ten]
  rcases ofSteps_cases (s * 10) 1 with ⟨product, below⟩ | product
  · refine .inr ⟨_, product, below, (roundedTo_near _).2, fun k wide => ?_⟩
    refine (isKept_eight (k + 1)).le_roundedTo Nat.one_pos ?_
    rw [Nat.pow_succ, Nat.mul_one, Nat.mul_right_comm]
    exact Nat.mul_le_mul wide (by decide)
  · exact .inl product

/-- The counts of a fraction that is being read: near its digits, or too large for the format. -/
inductive Counts (first k : Nat) : Extended × Extended → Prop where
  | near {n s : Nat} (near : IsNear first k n s) : Counts first k (counted n, counted s)
  | wide {n : Nat} : Counts first k (counted n, infinite false)
  | lost {scale : Extended} : Counts first k (infinite false, scale)

theorem Counts.step {first k : Nat} {state : Extended × Extended} (counts : Counts first k state) (small : first < 1000)
    {c : Char} (digit : c.isDigit = true) : Counts first (k + 1) (fractionStep state c) := by
  cases counts with
  | @near n s near =>
      have few := near.few
      rw [fractionStep]
      rcases number_step n digit with same | ⟨m, same, up⟩
      · rw [same]
        exact .lost
      · rw [same]
        rcases scale_step s with same' | ⟨s', same', below, down, wide⟩
        · rw [same']
          exact .wide
        · rw [same']
          have small : (first + 1) * 2 ^ 40 + 2 ^ 35 + k ≤ 2 ^ 50 := by
            norm_num only
            linarith
          have bound := bound_step near.near small up down
          rw [Nat.add_assoc] at bound
          exact .near ⟨wide k near.wide, below, bound⟩
  | @wide n =>
      rw [fractionStep, infinite_mul_ten]
      rcases number_step n digit with same | ⟨m, same, _⟩
      · rw [same]
        exact .lost
      · rw [same]
        exact .wide
  | @lost scale =>
      have code := Decimal.toNat_digit digit
      have value := Decimal.digitValue_le digit
      have char : Extended.ofInt c.toNat = counted (c.toNat * one) := ofInt_small (by omega)
      rw [fractionStep, infinite_mul_ten, char, ofInt_fortyEight]
      exact .lost

/-- The first three digits of a fraction as a count of thousandths. -/
def thousandths (digits : List Char) : Nat := Decimal.digitsValue 0 (digits.take 3) * 10 ^ (3 - digits.length)

theorem thousandths_lt {digits : List Char} (all : ∀ c ∈ digits, c.isDigit = true) : thousandths digits < 1000 := by
  have same : 3 - digits.length = 3 - (digits.take 3).length := by
    rw [List.length_take]
    omega
  rw [thousandths, same]
  exact Decimal.places_lt all 3

/-- Whatever is read of a fraction, its counts are nearly in the proportion of its first three digits. -/
inductive Settles (first : Nat) : Extended × Extended → Prop where
  | near {n s : Nat} (nonzero : s ≠ 0) (le : 16000 * n ≤ s * (16 * first + 17)) : Settles first (counted n, counted s)
  | wide {n : Nat} : Settles first (counted n, infinite false)
  | lost {scale : Extended} : Settles first (infinite false, scale)

theorem Counts.settles {first k : Nat} {state : Extended × Extended} (counts : Counts first k state) :
    Settles first state := by
  cases counts with
  | @near n s near =>
      have few := near.few
      have positive : 0 < s := Nat.lt_of_lt_of_le (Nat.mul_pos (Nat.pow_pos (by decide)) Binary64.one_pos) near.wide
      refine .near positive.ne' (Nat.le_of_mul_le_mul_right (c := 2 ^ 36) ?_ (by decide))
      calc 16000 * n * 2 ^ 36 = 1000 * n * 2 ^ 40 := by ring
        _ ≤ (1000 * n + 1002 * one) * 2 ^ 40 := Nat.mul_le_mul_right _ (Nat.le_add_right _ _)
        _ ≤ s * ((first + 1) * 2 ^ 40 + 2 ^ 35 + k) := near.near
        _ ≤ s * ((16 * first + 17) * 2 ^ 36) := Nat.mul_le_mul_left _ (by norm_num only; linarith)
        _ = s * (16 * first + 17) * 2 ^ 36 := (Nat.mul_assoc _ _ _).symm
  | wide => exact .wide
  | lost => exact .lost

/-- A digit after another keeps the counts near the first three digits. -/
theorem counts_foldl {first k : Nat} {state : Extended × Extended} (small : first < 1000) {digits : List Char}
    (all : ∀ c ∈ digits, c.isDigit = true) (counts : Counts first k state) :
    Counts first (k + digits.length) (digits.foldl fractionStep state) := by
  induction digits generalizing k state with
  | nil => exact counts
  | cons c digits ih =>
      obtain ⟨digit, rest⟩ := List.forall_mem_cons.1 all
      have later := ih rest (counts.step small digit)
      rwa [Nat.add_assoc, Nat.add_comm 1] at later

theorem settles_fractionSteps {digits : List Char} (all : ∀ c ∈ digits, c.isDigit = true) :
    Settles (thousandths digits) (fractionSteps digits) := by
  have front : ∀ c ∈ digits.take 3, c.isDigit = true := fun c member => all c (List.mem_of_mem_take member)
  have few : (digits.take 3).length ≤ 14 := (List.length_take_le _ _).trans (by decide)
  have read := fractionSteps_few front few
  have small := thousandths_lt all
  by_cases short : digits.length ≤ 3
  · have whole : digits.take 3 = digits := List.take_of_length_le short
    rw [whole] at read
    rw [read]
    refine .near (Nat.mul_pos (Nat.pow_pos (by decide)) Binary64.one_pos).ne' ?_
    have power : 10 ^ digits.length * 10 ^ (3 - digits.length) = 1000 := by
      rw [← Nat.pow_add, Nat.add_sub_cancel' short]
    calc 16000 * (Decimal.digitsValue 0 digits * one)
        = 10 ^ digits.length * one * (16 * (Decimal.digitsValue 0 digits * 10 ^ (3 - digits.length))) := by
          rw [show 16000 = 16 * 1000 from rfl, ← power]
          ring
      _ ≤ 10 ^ digits.length * one * (16 * thousandths digits + 17) := by
          rw [thousandths, whole]
          exact Nat.mul_le_mul_left _ (Nat.le_add_right _ _)
  · have exactly : (digits.take 3).length = 3 := by
      rw [List.length_take]
      omega
    have first : thousandths digits = Decimal.digitsValue 0 (digits.take 3) := by
      rw [thousandths, Nat.sub_eq_zero_of_le (by omega), Nat.pow_zero, Nat.mul_one]
    -- The first three digits are counted exactly; what follows moves the count by less than one more of them.
    have base : Counts (thousandths digits) 3 (fractionSteps (digits.take 3)) := by
      rw [read, exactly, ← first]
      refine .near ⟨Nat.mul_le_mul_right _ (by decide), mul_one_lt_overflow (by decide), ?_⟩
      have room : (1000 * thousandths digits + 1002) * 2 ^ 40
          ≤ 10 ^ 3 * ((thousandths digits + 1) * 2 ^ 40 + 2 ^ 35 + 3) := by
        norm_num only
        linarith
      calc (1000 * (thousandths digits * one) + 1002 * one) * 2 ^ 40
          = (1000 * thousandths digits + 1002) * 2 ^ 40 * one := by ring
        _ ≤ 10 ^ 3 * ((thousandths digits + 1) * 2 ^ 40 + 2 ^ 35 + 3) * one := Nat.mul_le_mul_right _ room
        _ = 10 ^ 3 * one * ((thousandths digits + 1) * 2 ^ 40 + 2 ^ 35 + 3) := by ring
    have rest : ∀ c ∈ digits.drop 3, c.isDigit = true := fun c member => all c (List.mem_of_mem_drop member)
    rw [← List.take_append_drop 3 digits, fractionSteps_eq, List.foldl_append, List.take_append_drop]
    exact (counts_foldl small rest base).settles

theorem thousandths_eq {digits : List Char} (all : ∀ c ∈ digits, c.isDigit = true) :
    Decimal.digitsValue 0 (digits.take 9) * 10 ^ (9 - (digits.take 9).length) / 1000000 = thousandths digits := by
  by_cases short : digits.length ≤ 3
  · have power : 10 ^ (9 - digits.length) = 10 ^ (3 - digits.length) * 1000000 := by
      rw [show 9 - digits.length = 3 - digits.length + 6 by omega, Nat.pow_add]
    rw [List.take_of_length_le (by omega), power, ← Nat.mul_assoc, Nat.mul_div_cancel _ (by decide), thousandths,
      List.take_of_length_le short]
  · have cut : digits.take 9 = digits.take 3 ++ (digits.take 9).drop 3 := by
      conv_lhs => rw [← List.take_append_drop 3 (digits.take 9), List.take_take, show min 3 9 = 3 from rfl]
    have back : ∀ c ∈ (digits.take 9).drop 3, c.isDigit = true :=
      fun c member => all c (List.mem_of_mem_take (List.mem_of_mem_drop member))
    have small := Decimal.digitsValue_lt back 0
    have length : (digits.take 9).length = 3 + ((digits.take 9).drop 3).length ∧ ((digits.take 9).drop 3).length ≤ 6 := by
      simp only [List.length_take, List.length_drop]
      omega
    have value : Decimal.digitsValue 0 (digits.take 9) = Decimal.digitsValue 0 (digits.take 3)
        * 10 ^ ((digits.take 9).drop 3).length + Decimal.digitsValue 0 ((digits.take 9).drop 3) := by
      conv_lhs => rw [cut, Decimal.digitsValue_append, Decimal.digitsValue_start]
    rw [value, length.1, thousandths, Nat.sub_eq_zero_of_le (by omega : 3 ≤ digits.length), Nat.pow_zero, Nat.mul_one]
    generalize ((digits.take 9).drop 3).length = places at small length
    rw [Nat.zero_add, Nat.one_mul] at small
    have power : 10 ^ places * 10 ^ (9 - (3 + places)) = 1000000 := by
      rw [← Nat.pow_add, show places + (9 - (3 + places)) = 6 by omega]
    have rest : Decimal.digitsValue 0 ((digits.take 9).drop 3) * 10 ^ (9 - (3 + places)) < 1000000 := by
      rw [← power]
      exact Nat.mul_lt_mul_of_pos_right small (Nat.pow_pos (by decide))
    rw [Nat.add_mul, Nat.mul_assoc, power]
    omega

/-! ## Milliseconds -/

/-- An upper bound of a fraction in grains. -/
def grains (first : Nat) : Nat := (16 * first + 17) * 2 ^ 20 / 16000 + 1

theorem Settles.between {first : Nat} {state : Extended × Extended} (settles : Settles first state) (small : first < 1000)
    {grain : Nat} (same : one = 2 ^ 20 * grain) (kept : ∀ n < 2 ^ 53, IsKept (n * grain)) :
    (state.1.div state.2).Between 0 (grains first * grain) := by
  have room : grains first < 2 ^ 53 ∧ (16 * first + 17) * 2 ^ 20 ≤ 16000 * grains first := by
    rw [grains]
    norm_num only
    omega
  cases settles with
  | @near n s nonzero le =>
      rw [div_counted n nonzero]
      have zero : IsKept 0 := by simpa using kept 0 (by decide)
      refine between_ofSteps zero (kept _ room.1) (Nat.pos_of_ne_zero nonzero) (by omega) ?_
      have scaled : n * 2 ^ 20 ≤ grains first * s := by
        refine Nat.le_of_mul_le_mul_left (c := 16000) ?_ (by decide)
        calc 16000 * (n * 2 ^ 20) = 16000 * n * 2 ^ 20 := (Nat.mul_assoc _ _ _).symm
          _ ≤ s * (16 * first + 17) * 2 ^ 20 := Nat.mul_le_mul_right _ le
          _ = s * ((16 * first + 17) * 2 ^ 20) := Nat.mul_assoc _ _ _
          _ ≤ s * (16000 * grains first) := Nat.mul_le_mul_left _ room.2
          _ = 16000 * (grains first * s) := by ring
      calc n * one = n * 2 ^ 20 * grain := by rw [same, Nat.mul_assoc]
        _ ≤ grains first * s * grain := Nat.mul_le_mul_right _ scaled
        _ = grains first * grain * s := Nat.mul_right_comm _ _ _
  | wide => exact .within (Nat.le_refl _) (Nat.zero_le _)
  | @lost scale =>
      cases scale with
      | finite x => exact .infinite
      | infinite negative => exact .undefined
      | undefined => exact .undefined

/-- Seconds between bounds are told in milliseconds between bounds. -/
theorem milliseconds?_between {second more extra : Nat} {x : Extended} {ms : Int} {grain : Nat} (same : one = 2 ^ 20 * grain)
    (kept : ∀ n < 2 ^ 53, IsKept (n * grain)) (small : second < 60) (few : extra < 1000)
    (room : 1000 * more + 2 ^ 19 < 2 ^ 20 * (extra + 2))
    (between : x.Between (second * 2 ^ 20 * grain) ((second * 2 ^ 20 + more) * grain)) (told : milliseconds? x = some ms) :
    1000 * (second : Int) ≤ ms ∧ ms ≤ 1000 * second + extra + 1 := by
  have half : Extended.ofQuotient 1 2 = counted (2 ^ 19 * grain) := by
    have double : 1 * one = 2 ^ 19 * grain * 2 := by
      rw [same]
      ring
    have below : 2 ^ 19 * grain < overflow :=
      Nat.lt_of_le_of_lt (by omega : 2 ^ 19 * grain ≤ 1 * one) (mul_one_lt_overflow (by decide))
    rw [ofQuotient, double, ofSteps_kept (kept _ (by decide)) below (by decide)]
  have scaled : (x.mul (.ofInt 1000)).Between (1000 * second * 2 ^ 20 * grain)
      ((1000 * second * 2 ^ 20 + 1000 * more) * grain) :=
    between.mul_whole (n := 1000) (kept _ (by omega)) (kept _ (by omega)) (by decide) (by decide)
      (by apply Nat.le_of_eq; ring) (by apply Nat.le_of_eq; ring)
  have rounded : ((x.mul (.ofInt 1000)).add (.ofQuotient 1 2)).Between (1000 * second * one)
      ((1000 * second * 2 ^ 20 + 1000 * more + 2 ^ 19) * grain) := by
    rw [half, same, ← Nat.mul_assoc]
    exact scaled.add_counted (kept _ (by omega)) (kept _ (by omega)) _ (Nat.le_add_right _ _) (by rw [Nat.add_mul _ (2 ^ 19)])
  have positive : 0 < grain := by
    have := Binary64.one_pos
    omega
  have high : (1000 * second * 2 ^ 20 + 1000 * more + 2 ^ 19) * grain < (1000 * second + extra + 1 + 1) * one := by
    rw [same, ← Nat.mul_assoc]
    refine Nat.mul_lt_mul_of_pos_right ?_ positive
    omega
  have bounds := rounded.whole high told
  omega

theorem ofInt_second {second : Nat} {grain : Nat} (same : one = 2 ^ 20 * grain) (small : second < 60) :
    Extended.ofInt second = counted (second * 2 ^ 20 * grain) := by
  rw [ofInt_small (by omega), same, Nat.mul_assoc]

theorem milliseconds?_whole {second : Nat} {ms : Int} (small : second < 60)
    (told : milliseconds? (.ofInt second) = some ms) :
    1000 * (second : Int) ≤ ms ∧ ms ≤ 1000 * second + 1 := by
  obtain ⟨grain, same, kept⟩ := exists_grain
  have between : (Extended.ofInt second).Between (second * 2 ^ 20 * grain) ((second * 2 ^ 20 + 0) * grain) := by
    rw [ofInt_second same small, Nat.add_zero]
    exact .within (Nat.le_refl _) (Nat.le_refl _)
  have room : 1000 * 0 + 2 ^ 19 < 2 ^ 20 * (0 + 2) := by norm_num
  have bounds := milliseconds?_between same kept small (by decide) room between told
  omega

/-- Seconds with a fraction are told in milliseconds, in those of its first three digits or one more. -/
theorem milliseconds?_fraction {second : Nat} {digits : List Char} {ms : Int} (all : ∀ c ∈ digits, c.isDigit = true)
    (small : second < 60) (told : milliseconds? (secondsWith second digits) = some ms) :
    1000 * (second : Int) ≤ ms ∧ ms ≤ 1000 * second + thousandths digits + 1 := by
  obtain ⟨grain, same, kept⟩ := exists_grain
  have first := thousandths_lt all
  have room : 1000 * grains (thousandths digits) + 2 ^ 19 < 2 ^ 20 * (thousandths digits + 2) := by
    rw [grains]
    norm_num only
    omega
  refine milliseconds?_between same kept small first room ?_ told
  rw [secondsWith, ofInt_second same small]
  exact ((settles_fractionSteps all).between first same kept).counted_add (kept _ (by omega)) (kept _ (by omega)) _
    (Nat.le_add_right _ _) (by rw [Nat.add_mul])

end Datasheet.Sql.Stamp
