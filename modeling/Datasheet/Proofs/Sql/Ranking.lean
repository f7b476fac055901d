import Mathlib.Data.Prod.Lex
import Mathlib.Order.Compare
import Datasheet.Proofs.Number.Shortest
import Datasheet.Sql.Engine.Aggregation
import Datasheet.Sql.Engine.Numeral

/-! # The order of numbers

Every text is read as a number, whole or real, and all numbers are in one order, with an infinity at each end. The
greatest and the least of a row of numbers are numbers of the row.
-/

namespace Datasheet

/-! ## Texts as numbers -/

theorem Extended.ofSteps_ne_undefined (negative : Bool) (numerator denominator : Nat) :
    ofSteps negative numerator denominator ≠ .undefined := by
  intro same
  unfold ofSteps at same
  cases rounded : Binary64.nearest? negative numerator denominator with
  | none =>
      rw [rounded] at same
      cases same
  | some x =>
      rw [rounded] at same
      cases same

theorem Extended.neg_ne_undefined {x : Extended} (known : x ≠ .undefined) : x.neg ≠ .undefined := by
  cases x with
  | finite x => simp [neg]
  | infinite negative => simp [neg]
  | undefined => exact absurd rfl known

namespace Sql

theorem Scaled.round_ne_undefined (x : Scaled) : x.round ≠ .undefined := by
  rw [Scaled.round]
  split
  · simp
  · exact Extended.ofSteps_ne_undefined _ _ _

theorem Numeral.real_ne_undefined (n : Numeral) : n.real ≠ .undefined := by
  have magnitude (s : Nat) (e : Int) :
      (if e = 0 then Extended.ofInt s else ((Scaled.mk s 0).shift e).round) ≠ .undefined := by
    split
    · exact Extended.ofSteps_ne_undefined _ _ _
    · exact Scaled.round_ne_undefined _
  simp only [Numeral.real]
  split
  · exact Extended.neg_ne_undefined (magnitude _ _)
  · exact magnitude _ _

namespace Value

/-- The value is a number. -/
def IsNumber : Value → Prop
  | integer _ => True
  | real x => x ≠ .undefined
  | null | text _ => False

theorem isNumber_ofNumeral (text : String) : (ofNumeral text).IsNumber := by
  simp only [ofNumeral]
  split
  · trivial
  · rw [ofNumber]
    split
    · trivial
    · exact Numeral.real_ne_undefined _

theorem IsNumber.ne_null {v : Value} (number : v.IsNumber) : v ≠ .null := by
  rintro rfl
  exact number

theorem IsNumber.toText_ne {v : Value} (number : v.IsNumber) : v.toText ≠ "" := by
  cases v with
  | null | text => exact number.elim
  | integer n =>
      cases n with
      | ofNat n =>
          intro empty
          have textless : (Nat.repr n).toList = [] := congrArg String.toList empty
          simp [Nat.repr, Nat.toDigits_ne_nil] at textless
      | negSucc n =>
          intro empty
          have textless : ("-" ++ Nat.repr (n + 1)).toList = [] := congrArg String.toList empty
          simp at textless
  | real x =>
      intro empty
      have textless : x.text = [] := by simpa [toText] using congrArg String.toList empty
      exact x.text_ne_nil textless

/-! ## One order of all numbers -/

/-- Where a number stands: between the infinities in steps, or at an infinity. -/
def rank : Value → ℤ ×ₗ ℤ
  | integer n => toLex (0, n * Binary64.one)
  | real (.finite x) => toLex (0, x.value)
  | real (.infinite negative) => toLex (if negative then -1 else 1, 0)
  | _ => toLex (0, 0)

theorem compare?_eq_rank {v w : Value} (number : v.IsNumber) (number' : w.IsNumber) :
    v.compare? w = some (compare v.rank w.rank) := by
  have positive : (0 : Int) < Binary64.one := Int.natCast_pos.2 Binary64.one_pos
  have steps (m n : Int) : compare (m * Binary64.one) (n * Binary64.one) = compare m n := by
    have mono : StrictMono fun k : Int => k * Binary64.one := fun a b less => Int.mul_lt_mul_of_pos_right less positive
    rw [← cmp_eq_compare, ← cmp_eq_compare]
    exact mono.cmp_map_eq m n
  have inner (x y : Int) : compare (toLex ((0 : Int), x)) (toLex ((0 : Int), y)) = compare x y := rfl
  cases v with
  | null | text => exact number.elim
  | integer m =>
      cases w with
      | null | text => exact number'.elim
      | integer n => simp only [compare?, rank, inner, steps]
      | real y =>
          cases y with
          | undefined => exact absurd rfl number'
          | finite y =>
              simp only [compare?, rank, Extended.compareInt?, inner, Option.map_some]
              rw [← Std.OrientedCmp.eq_swap]
          | infinite negative => cases negative <;> rfl
  | real x =>
      cases w with
      | null | text => exact number'.elim
      | integer n =>
          cases x with
          | undefined => exact absurd rfl number
          | finite x => simp only [compare?, rank, Extended.compareInt?, inner]
          | infinite negative => cases negative <;> rfl
      | real y =>
          cases x with
          | undefined => exact absurd rfl number
          | finite x =>
              cases y with
              | undefined => exact absurd rfl number'
              | finite y => simp only [compare?, rank, Extended.compare?, inner]
              | infinite negative => cases negative <;> rfl
          | infinite negative =>
              cases y with
              | undefined => exact absurd rfl number'
              | finite y => cases negative <;> rfl
              | infinite negative' => cases negative <;> cases negative' <;> rfl

/-! ## Ends of the order -/

/-- The value is one of the values, and none of them lies ahead of it in the wanted direction. -/
def IsFirst (wanted : Ordering) (values : List Value) (v : Value) : Prop :=
  v ∈ values ∧ ∀ w ∈ values, w.compare? v ≠ some wanted

variable {wanted : Ordering} {u v w : Value}

theorem compare?_ne_trans (strict : wanted ≠ .eq) (number : u.IsNumber) (number' : v.IsNumber) (number'' : w.IsNumber)
    (first : u.compare? v ≠ some wanted) (second : v.compare? w ≠ some wanted) : u.compare? w ≠ some wanted := by
  rw [compare?_eq_rank number number', Ne, Option.some_inj] at first
  rw [compare?_eq_rank number' number'', Ne, Option.some_inj] at second
  rw [compare?_eq_rank number number'', Ne, Option.some_inj]
  cases wanted with
  | eq => exact absurd rfl strict
  | lt =>
      rw [compare_lt_iff_lt, not_lt] at *
      exact le_trans second first
  | gt =>
      rw [compare_gt_iff_gt, not_lt] at *
      exact le_trans first second

theorem compare?_ne_of_eq (strict : wanted ≠ .eq) (number : v.IsNumber) (number' : w.IsNumber)
    (ahead : v.compare? w = some wanted) : w.compare? v ≠ some wanted := by
  rw [compare?_eq_rank number number', Option.some_inj] at ahead
  rw [compare?_eq_rank number' number, Ne, Option.some_inj]
  cases wanted with
  | eq => exact absurd rfl strict
  | lt =>
      rw [compare_lt_iff_lt] at *
      exact lt_asymm ahead
  | gt =>
      rw [compare_gt_iff_gt] at *
      exact lt_asymm ahead

theorem IsFirst.compare?_eq {values : List Value} (strict : wanted ≠ .eq) (numbers : ∀ v ∈ values, v.IsNumber)
    (first : IsFirst wanted values v) (first' : IsFirst wanted values w) (number : u.IsNumber) :
    u.compare? v = u.compare? w := by
  have number' := numbers v first.1
  have number'' := numbers w first'.1
  have apart := first'.2 v first.1
  have apart' := first.2 w first'.1
  rw [compare?_eq_rank number' number'', Ne, Option.some_inj] at apart
  rw [compare?_eq_rank number'' number', Ne, Option.some_inj] at apart'
  have same : v.rank = w.rank := by
    cases wanted with
    | eq => exact absurd rfl strict
    | lt =>
        rw [compare_lt_iff_lt, not_lt] at *
        exact le_antisymm apart' apart
    | gt =>
        rw [compare_gt_iff_gt, not_lt] at *
        exact le_antisymm apart apart'
  rw [compare?_eq_rank number number', compare?_eq_rank number number'', same]

theorem isFirst_foldl_better (strict : wanted ≠ .eq) {first : Value} {rest : List Value} (number : first.IsNumber)
    (numbers : ∀ v ∈ rest, v.IsNumber) :
    IsFirst wanted (first :: rest) (rest.foldl (Aggregate.better wanted) first) := by
  induction rest generalizing first with
  | nil =>
      refine ⟨List.mem_singleton_self first, fun w member => ?_⟩
      obtain rfl := List.mem_singleton.1 member
      intro same
      exact compare?_ne_of_eq strict number number same same
  | cons next rest ih =>
      obtain ⟨nextNumber, numbers⟩ := List.forall_mem_cons.1 numbers
      have kept : (Aggregate.better wanted first next).IsNumber := by
        rw [Aggregate.better]
        split
        · exact nextNumber
        · exact number
      obtain ⟨member, ends⟩ := ih kept numbers
      obtain ⟨here, ends⟩ := List.forall_mem_cons.1 ends
      rw [List.foldl_cons]
      have found : (rest.foldl (Aggregate.better wanted) (Aggregate.better wanted first next)).IsNumber := by
        rcases List.mem_cons.1 member with same | inside
        · rw [same]
          exact kept
        · exact numbers _ inside
      generalize rest.foldl (Aggregate.better wanted) (Aggregate.better wanted first next) = best at *
      -- The value that is not kept lies behind the kept one, and so behind the last one.
      rw [Aggregate.better] at here member
      split at here
      next ahead =>
          rw [if_pos ahead] at member
          refine ⟨List.mem_cons_of_mem _ member, List.forall_mem_cons.2 ⟨?_, List.forall_mem_cons.2 ⟨here, ends⟩⟩⟩
          exact compare?_ne_trans strict number nextNumber found (compare?_ne_of_eq strict nextNumber number ahead) here
      next behind =>
          rw [if_neg behind] at member
          refine ⟨?_, List.forall_mem_cons.2 ⟨here, List.forall_mem_cons.2 ⟨?_, ends⟩⟩⟩
          · rcases List.mem_cons.1 member with same | inside
            · exact same ▸ List.mem_cons_self
            · exact List.mem_cons_of_mem _ (List.mem_cons_of_mem _ inside)
          · exact compare?_ne_trans strict nextNumber number found behind here

end Value

end Sql

end Datasheet

namespace Datasheet.Aggregate

open Sql

/-! ## Aggregates of numbers -/

/-- The end of the order at which an aggregate picks a value. -/
def end? : Aggregate → Option Ordering
  | max => some .gt
  | min => some .lt
  | _ => none

variable {function : Aggregate} {wanted : Ordering} {values : List Value}

theorem strict_of_end? (ends : function.end? = some wanted) : wanted ≠ .eq := by
  cases function <;> cases ends <;> decide

theorem isExtreme_of_end? (ends : function.end? = some wanted) : function.isExtreme = true := by
  cases function <;> cases ends <;> rfl

theorem filter_ne_null (numbers : ∀ v ∈ values, v.IsNumber) : values.filter (· != .null) = values :=
  List.filter_eq_self.2 fun v member => bne_iff_ne.2 (numbers v member).ne_null

theorem answer?_count (numbers : ∀ v ∈ values, v.IsNumber) : count.answer? values = some (.integer values.length) := by
  simp only [answer?, filter_ne_null numbers]

theorem answer?_of_end? (ends : function.end? = some wanted) (numbers : ∀ v ∈ values, v.IsNumber) :
    function.answer? values = some (bestOf wanted values) := by
  cases function with
  | max | min =>
      cases ends
      simp only [answer?, filter_ne_null numbers]
  | avg | sum | count => cases ends

/-- The value that an aggregate picks lies at its end of the order. -/
theorem isFirst_bestOf (ends : function.end? = some wanted) (numbers : ∀ v ∈ values, v.IsNumber) (nonempty : values ≠ []) :
    Value.IsFirst wanted values (bestOf wanted values) := by
  cases values with
  | nil => exact absurd rfl nonempty
  | cons first rest =>
      obtain ⟨number, numbers⟩ := List.forall_mem_cons.1 numbers
      exact Value.isFirst_foldl_better (strict_of_end? ends) number numbers

end Datasheet.Aggregate
