import Mathlib.Data.List.Infix
import Datasheet.Proofs.Sql.Ranking

/-! # Sums that have no answer

A sum of numbers has an answer unless all of them are whole and some beginning of them adds up to more than 64 bits hold.
A single real number makes the sum a rounded one, which always has an answer, wherever it stands.
-/

namespace Datasheet.Sql

namespace Value

def whole? : Value → Option Int
  | integer n => some n
  | _ => none

/-- The sum of the whole numbers among values. -/
def wholeSum (values : List Value) : Int := (values.filterMap whole?).sum

/-- All values are whole numbers, and the sum of some beginning of them does not fit in 64 bits. -/
def Overflow (values : List Value) : Prop :=
  (∀ v ∈ values, v.whole?.isSome) ∧ ∃ front ∈ values.inits, fits (wholeSum front) = false

instance (values : List Value) : Decidable (Overflow values) :=
  inferInstanceAs (Decidable ((∀ v ∈ values, v.whole?.isSome = true)
    ∧ ∃ front ∈ values.inits, fits (wholeSum front) = false))

theorem wholeSum_concat_integer (values : List Value) (n : Int) :
    wholeSum (values ++ [.integer n]) = wholeSum values + n := by
  simp [wholeSum, whole?]

theorem mem_inits_concat {values front : List Value} {v : Value} :
    front ∈ (values ++ [v]).inits ↔ front = values ++ [v] ∨ front ∈ values.inits := by
  rw [List.mem_inits, List.mem_inits, List.prefix_concat_iff]

end Value

namespace Summation

open Value

@[simp] theorem rounded_addReal (s : Summation) (x : Extended) : (s.addReal x).rounded = s.rounded := rfl

@[simp] theorem overflowed_addReal (s : Summation) (x : Extended) : (s.addReal x).overflowed = s.overflowed := rfl

@[simp] theorem rounded_addWhole (s : Summation) (n : Int) : (s.addWhole n).rounded = s.rounded := by
  rw [addWhole]
  split <;> rfl

@[simp] theorem overflowed_addWhole (s : Summation) (n : Int) : (s.addWhole n).overflowed = s.overflowed := by
  rw [addWhole]
  split <;> rfl

@[simp] theorem rounded_startRounding (s : Summation) : s.startRounding.rounded = true := by
  rw [startRounding]
  split <;> rfl

@[simp] theorem overflowed_startRounding (s : Summation) : s.startRounding.overflowed = s.overflowed := by
  rw [startRounding]
  split <;> rfl

@[simp] theorem count_addReal (s : Summation) (x : Extended) : (s.addReal x).count = s.count := rfl

@[simp] theorem count_addWhole (s : Summation) (n : Int) : (s.addWhole n).count = s.count := by
  rw [addWhole]
  split <;> rfl

@[simp] theorem count_startRounding (s : Summation) : s.startRounding.count = s.count := by
  rw [startRounding]
  split <;> rfl

/-- What a sum in progress tells of the values that have gone into it. -/
inductive Tells (values : List Value) (s : Summation) : Prop where
  /-- The sum is exact: all values and all sums on the way are whole and fit. -/
  | exactly (unrounded : s.rounded = false) (clear : s.overflowed = false) (wholes : ∀ v ∈ values, v.whole?.isSome)
      (sum : s.whole = wholeSum values) (fit : ∀ front ∈ values.inits, fits (wholeSum front) = true)
  | overflow (rounded : s.rounded = true) (overflowed : s.overflowed = true) (overflows : Overflow values)
  /-- The sum is rounded because of a real number. -/
  | rounding (rounded : s.rounded = true) (clear : s.overflowed = false) (real : ∃ v ∈ values, v.whole? = none)

/-- One more number keeps what a sum tells. -/
theorem Tells.step {values : List Value} {s : Summation} (tells : Tells values s) {v : Value} (number : v.IsNumber) :
    Tells (values ++ [v]) (s.step v) := by
  have wholes (known : ∀ v ∈ values, v.whole?.isSome) (n : Int) : ∀ v ∈ values ++ [.integer n], v.whole?.isSome := by
    intro w member
    rcases List.mem_append.1 member with member | member
    · exact known w member
    · obtain rfl := List.mem_singleton.1 member
      rfl
  cases v with
  | null | text => exact number.elim
  | integer n =>
      cases tells with
      | exactly unrounded clear known sum fit =>
          by_cases fitting : fits (s.whole + n) = true
          · have stepped : s.step (.integer n) = { s with count := s.count + 1, whole := s.whole + n } := by
              simp [Summation.step, unrounded, fitting]
            rw [stepped]
            refine .exactly unrounded clear (wholes known n) ?_ fun front member => ?_
            · rw [wholeSum_concat_integer, sum]
            · rcases mem_inits_concat.1 member with rfl | member
              · rwa [wholeSum_concat_integer, ← sum]
              · exact fit front member
          · refine .overflow ?_ ?_ ⟨wholes known n, values ++ [.integer n], mem_inits_concat.2 (.inl rfl), ?_⟩
            · simp [Summation.step, unrounded, fitting]
            · simp [Summation.step, unrounded, fitting]
            · rw [wholeSum_concat_integer, ← sum]
              simpa using fitting
      | overflow rounded overflowed overflows =>
          obtain ⟨known, front, member, wide⟩ := overflows
          refine .overflow ?_ ?_ ⟨wholes known n, front, mem_inits_concat.2 (.inr member), wide⟩
          · simp [Summation.step, rounded]
          · simp [Summation.step, rounded, overflowed]
      | rounding rounded clear real =>
          obtain ⟨w, member, noWhole⟩ := real
          refine .rounding ?_ ?_ ⟨w, List.mem_append_left _ member, noWhole⟩
          · simp [Summation.step, rounded]
          · simp [Summation.step, rounded, clear]
  | real x =>
      -- From whatever state, a real number makes the sum a rounded one that has an answer.
      refine .rounding ?_ ?_ ⟨.real x, List.mem_append_right _ (List.mem_singleton_self _), rfl⟩
      · cases rounded : s.rounded <;> simp [Summation.step, rounded]
      · cases tells with
        | exactly unrounded clear => simp [Summation.step, unrounded, clear]
        | overflow rounded | rounding rounded => simp [Summation.step, rounded]

theorem tells_foldl {done values : List Value} {s : Summation} (tells : Tells done s) (numbers : ∀ v ∈ values, v.IsNumber) :
    Tells (done ++ values) (values.foldl Summation.step s) := by
  induction values generalizing done s with
  | nil => simpa using tells
  | cons v values ih =>
      obtain ⟨number, numbers⟩ := List.forall_mem_cons.1 numbers
      have rest := ih (tells.step number) numbers
      rwa [List.append_assoc, List.singleton_append] at rest

theorem tells_ofValues {values : List Value} (numbers : ∀ v ∈ values, v.IsNumber) : Tells values (ofValues values) := by
  refine @tells_foldl [] values _ (.exactly rfl rfl (by simp) rfl fun front member => ?_) numbers
  obtain rfl : front = [] := by simpa using member
  decide

theorem count_step (s : Summation) {v : Value} (number : v.IsNumber) : (s.step v).count = s.count + 1 := by
  cases v with
  | null | text => exact number.elim
  | integer n =>
      simp only [step]
      split
      · simp
      · split <;> simp
  | real x =>
      simp only [step]
      split <;> simp

theorem count_foldl {values : List Value} (s : Summation) (numbers : ∀ v ∈ values, v.IsNumber) :
    (values.foldl step s).count = s.count + values.length := by
  induction values generalizing s with
  | nil => rfl
  | cons v values ih =>
      obtain ⟨number, numbers⟩ := List.forall_mem_cons.1 numbers
      rw [List.foldl_cons, ih _ numbers, count_step s number, List.length_cons]
      omega

/-- A sum of numbers has no answer exactly if it overflows. -/
theorem sum?_eq_none_iff {values : List Value} (numbers : ∀ v ∈ values, v.IsNumber) :
    (ofValues values).sum? = none ↔ Overflow values := by
  have count : (ofValues values).count = values.length := by
    rw [ofValues, count_foldl _ numbers]
    exact Nat.zero_add _
  cases values with
  | nil => decide
  | cons v values =>
      have nonzero : (ofValues (v :: values)).count ≠ 0 := by simp [count]
      rw [sum?, if_neg nonzero]
      cases tells_ofValues numbers with
      | exactly unrounded _ _ _ fit =>
          refine iff_of_false (by simp [unrounded]) ?_
          rintro ⟨_, front, member, wide⟩
          exact absurd (fit front member) (by simp [wide])
      | overflow rounded overflowed overflows => exact iff_of_true (by simp [rounded, overflowed]) overflows
      | rounding rounded clear real =>
          refine iff_of_false (by simp [rounded, clear]) ?_
          rintro ⟨wholes, _⟩
          obtain ⟨w, member, noWhole⟩ := real
          exact absurd (wholes w member) (by simp [noWhole])

end Summation

end Datasheet.Sql
