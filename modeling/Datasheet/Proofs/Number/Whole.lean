import Mathlib.Algebra.Order.Ring.Nat
import Mathlib.Data.List.TakeDrop
import Mathlib.Data.List.TakeWhile
import Mathlib.Tactic.Ring
import Datasheet.Sql.Engine.Numeral
import Datasheet.Proofs.Text.Trimming

/-! # Whole numbers in texts

A whole number of at most fifteen digits is read exactly, both as a number of the binary64 format and as a whole
number of the engine, so that the two are in the same order.
-/

namespace Datasheet

open Text

/-! ## Rounding -/

namespace Binary64

theorem log2_mul_pow {n : Nat} (positive : n ≠ 0) (k : Nat) : (n * 2 ^ k).log2 = n.log2 + k := by
  have nonzero : n * 2 ^ k ≠ 0 := Nat.mul_ne_zero positive (Nat.pow_pos (by decide)).ne'
  rw [Nat.log2_eq_iff nonzero]
  constructor
  · rw [Nat.pow_add]
    exact Nat.mul_le_mul_right _ (Nat.log2_self_le positive)
  · rw [show n.log2 + k + 1 = n.log2 + 1 + k by omega, Nat.pow_add]
    exact Nat.mul_lt_mul_of_pos_right ((Nat.log2_lt positive).1 (Nat.lt_succ_self _)) (Nat.pow_pos (by decide))

theorem roundedQuotient_of_dvd {n unit : Nat} (positive : 0 < unit) (divides : unit ∣ n) :
    roundedQuotient n unit * unit = n := by
  have rest : n % unit = 0 := Nat.mod_eq_zero_of_dvd divides
  have kept : ¬(unit < 2 * 0 ∨ 2 * 0 = unit ∧ n / unit % 2 = 1) := by omega
  rw [roundedQuotient]
  simp only [rest, if_neg kept]
  exact Nat.div_mul_cancel divides

/-- A number below 2⁵³ keeps all of its digits, at whatever scale. -/
theorem roundedTo_mul_pow {n : Nat} (small : n < 2 ^ 53) (k : Nat) :
    roundedTo precision (n * 2 ^ k) 1 = n * 2 ^ k := by
  have unit : ∃ e ≤ k, roundedTo precision (n * 2 ^ k) 1 = roundedQuotient (n * 2 ^ k) (2 ^ e) * 2 ^ e ∨ n = 0 := by
    by_cases zero : n = 0
    · exact ⟨0, Nat.zero_le _, .inr zero⟩
    · have digits : n.log2 < 53 := (Nat.log2_lt zero).2 small
      -- The unit of the last kept digit is at most the power of two that the number is scaled by.
      refine ⟨n.log2 + k + 1 - 53, by omega, .inl ?_⟩
      simp only [roundedTo, Nat.div_one, Nat.one_mul, log2_mul_pow zero, precision]
      rfl
  obtain ⟨e, bound, rounded | rfl⟩ := unit
  · rw [rounded]
    exact roundedQuotient_of_dvd (Nat.pow_pos (by decide)) (Nat.dvd_mul_left_of_dvd (Nat.pow_dvd_pow 2 bound) n)
  · rw [Nat.zero_mul]
    rfl

theorem one_pos : 0 < one := Nat.pow_pos (by decide)

theorem mul_pow_lt {n k m : Nat} (small : n < 2 ^ 53) (room : 53 + k ≤ m) : n * 2 ^ k < 2 ^ m := by
  calc n * 2 ^ k < 2 ^ 53 * 2 ^ k := Nat.mul_lt_mul_of_pos_right small (Nat.pow_pos (by decide))
    _ = 2 ^ (53 + k) := (pow_add 2 53 k).symm
    _ ≤ 2 ^ m := Nat.pow_le_pow_right (by decide) room

theorem nearest?_of_small (negative : Bool) {n : Nat} (small : n < 2 ^ 53) :
    nearest? negative (n * one) 1 = some ⟨negative, n * one⟩ := by
  have rounded : roundedTo precision (n * one) 1 = n * one := roundedTo_mul_pow small 1074
  have below : n * one < overflow := mul_pow_lt small (by decide)
  rw [nearest?, rounded]
  exact if_pos below

end Binary64

/-! ## Digits -/

namespace Decimal

theorem digitValue_le {c : Char} (digit : c.isDigit = true) : digitValue c ≤ 9 := by
  have range : 48 ≤ c.toNat ∧ c.toNat ≤ 57 := by simpa [Char.isDigit, UInt32.le_iff_toNat_le] using digit
  rw [digitValue]
  omega

theorem toNat_digit {c : Char} (digit : c.isDigit = true) : c.toNat = 48 + digitValue c := by
  have range : 48 ≤ c.toNat ∧ c.toNat ≤ 57 := by simpa [Char.isDigit, UInt32.le_iff_toNat_le] using digit
  rw [digitValue]
  omega

theorem digitsValue_lt {digits : List Char} (all : ∀ c ∈ digits, c.isDigit = true) (start : Nat) :
    digitsValue start digits < (start + 1) * 10 ^ digits.length := by
  induction digits generalizing start with
  | nil => simp [digitsValue]
  | cons c digits ih =>
      obtain ⟨first, rest⟩ := List.forall_mem_cons.1 all
      have digit := digitValue_le first
      have step := ih rest (10 * start + digitValue c)
      calc digitsValue start (c :: digits) < (10 * start + digitValue c + 1) * 10 ^ digits.length := step
        _ ≤ ((start + 1) * 10) * 10 ^ digits.length := Nat.mul_le_mul_right _ (by omega)
        _ = (start + 1) * 10 ^ (c :: digits).length := by rw [List.length_cons, pow_succ', mul_assoc]

theorem places_lt {digits : List Char} (all : ∀ c ∈ digits, c.isDigit = true) (places : Nat) :
    digitsValue 0 (digits.take places) * 10 ^ (places - (digits.take places).length) < 10 ^ places := by
  have front := digitsValue_lt (fun c member => all c (List.mem_of_mem_take member) : ∀ c ∈ digits.take places, _) 0
  rw [Nat.zero_add, Nat.one_mul] at front
  calc digitsValue 0 (digits.take places) * 10 ^ (places - (digits.take places).length)
      < 10 ^ (digits.take places).length * 10 ^ (places - (digits.take places).length) :=
        Nat.mul_lt_mul_of_pos_right front (Nat.pow_pos (by decide))
    _ = 10 ^ places := by
        rw [← Nat.pow_add, List.length_take]
        congr 1
        omega

theorem digitsValue_append (start : Nat) (front back : List Char) :
    digitsValue start (front ++ back) = digitsValue (digitsValue start front) back := by
  simp [digitsValue]

theorem digitsValue_zeros {digits : List Char} (zeros : ∀ c ∈ digits, c = '0') : digitsValue 0 digits = 0 := by
  induction digits with
  | nil => rfl
  | cons c digits ih =>
      obtain ⟨rfl, rest⟩ := List.forall_mem_cons.1 zeros
      exact ih rest

theorem digitsValue_start (start : Nat) (digits : List Char) :
    digitsValue start digits = start * 10 ^ digits.length + digitsValue 0 digits := by
  induction digits generalizing start with
  | nil => simp [digitsValue]
  | cons c digits ih =>
      have first : digitsValue start (c :: digits) = digitsValue (10 * start + digitValue c) digits := rfl
      have zero : digitsValue 0 (c :: digits) = digitsValue (10 * 0 + digitValue c) digits := rfl
      rw [first, zero, ih, ih (10 * 0 + digitValue c), List.length_cons, pow_succ]
      ring

theorem digitsValue_cons (c : Char) (digits : List Char) :
    digitsValue 0 (c :: digits) = digitValue c * 10 ^ digits.length + digitsValue 0 digits := by
  have first : digitsValue 0 (c :: digits) = digitsValue (10 * 0 + digitValue c) digits := rfl
  rw [first, digitsValue_start, Nat.mul_zero, Nat.zero_add]

theorem lt_iff_digitsValue_lt {digits digits' : List Char} (all : ∀ c ∈ digits, c.isDigit = true)
    (all' : ∀ c ∈ digits', c.isDigit = true) (length : digits.length = digits'.length) :
    digits < digits' ↔ digitsValue 0 digits < digitsValue 0 digits' := by
  induction digits generalizing digits' with
  | nil =>
      obtain rfl := List.eq_nil_of_length_eq_zero length.symm
      simp
  | cons c digits ih =>
      cases digits' with
      | nil => exact absurd length (by simp)
      | cons d digits' =>
          obtain ⟨digit, all⟩ := List.forall_mem_cons.1 all
          obtain ⟨digit', all'⟩ := List.forall_mem_cons.1 all'
          have sameLength : digits.length = digits'.length := Nat.succ.inj length
          have bound := digitsValue_lt all 0
          have bound' := digitsValue_lt all' 0
          rw [List.cons_lt_cons_iff, ih all all' sameLength, digitsValue_cons, digitsValue_cons, ← sameLength]
          rw [← sameLength] at bound'
          have code := toNat_digit digit
          have code' := toNat_digit digit'
          have order : c < d ↔ digitValue c < digitValue d := by
            rw [Char.lt_def, UInt32.lt_iff_toNat_lt]
            change c.toNat < d.toNat ↔ _
            omega
          have same : c = d ↔ digitValue c = digitValue d := by
            rw [← Char.toNat_inj]
            omega
          rw [order, same]
          generalize digitValue c = first at *
          generalize digitValue d = first' at *
          -- A difference in the first digit outweighs all the digits behind it.
          rcases Nat.lt_trichotomy first first' with less | rfl | more
          · have block := Nat.mul_le_mul_right (10 ^ digits.length) less
            rw [Nat.succ_mul] at block
            omega
          · omega
          · have block := Nat.mul_le_mul_right (10 ^ digits.length) more
            rw [Nat.succ_mul] at block
            omega

theorem digitsValue_small {digits : List Char} (all : ∀ c ∈ digits, c.isDigit = true) (few : digits.length ≤ 15) :
    digitsValue 0 digits < 10 ^ 15 := by
  have bound := digitsValue_lt all 0
  rw [Nat.zero_add, Nat.one_mul] at bound
  exact Nat.lt_of_lt_of_le bound (Nat.pow_le_pow_right (by decide) few)

theorem digits_eq {cs : List Char} (all : ∀ c ∈ cs, c.isDigit = true) : digits cs = (cs, []) := by
  rw [digits, List.span_eq_takeWhile_dropWhile, List.takeWhile_eq_self_iff.2 all, List.dropWhile_eq_nil_iff.2 all]

theorem toBinary64?_whole (negative : Bool) {n : Nat} (small : n < 10 ^ 15) :
    toBinary64? ⟨negative, n, 0⟩ = some ⟨negative, n * Binary64.one⟩ := by
  have few : digitCount n ≤ 15 := (Nat.length_toDigits_le_iff (by decide) (by decide)).2 small
  have wide : n < 2 ^ 53 := Nat.lt_trans small (by decide)
  rw [toBinary64?]
  by_cases zero : n = 0
  · simp [zero]
  · have scaled : n * Nat.pow 10 (0 : Int).toNat * Binary64.one = n * Binary64.one := by simp
    have unit : Nat.pow 10 (-(0 : Int)).toNat = 1 := rfl
    simp only [if_neg zero, scaled, unit]
    rw [if_neg (by omega), if_neg (by omega), Binary64.nearest?_of_small negative wide]

end Decimal

/-! ## Texts -/

/-- The whole number that an optional sign and one to fifteen digits stand for. -/
def wholeNumber? (cs : List Char) : Option Int :=
  let (negative, digits) := Decimal.sign cs
  if digits ≠ [] ∧ digits.length ≤ 15 ∧ digits.all Char.isDigit then
    some (if negative then -(Decimal.digitsValue 0 digits : Int) else Decimal.digitsValue 0 digits)
  else none

theorem sign_cases (cs : List Char) : cs = '-' :: (Decimal.sign cs).2 ∧ (Decimal.sign cs).1 = true
    ∨ cs = '+' :: (Decimal.sign cs).2 ∧ (Decimal.sign cs).1 = false
    ∨ cs = (Decimal.sign cs).2 ∧ (Decimal.sign cs).1 = false := by
  unfold Decimal.sign
  split
  next => exact .inl ⟨rfl, rfl⟩
  next => exact .inr (.inl ⟨rfl, rfl⟩)
  next => exact .inr (.inr ⟨rfl, rfl⟩)

theorem wholeNumber?_eq_some {cs : List Char} {n : Int} (read : wholeNumber? cs = some n) :
    (Decimal.sign cs).2 ≠ [] ∧ (∀ c ∈ (Decimal.sign cs).2, c.isDigit = true)
      ∧ Decimal.digitsValue 0 (Decimal.sign cs).2 < 10 ^ 15
      ∧ n = if (Decimal.sign cs).1 then -(Decimal.digitsValue 0 (Decimal.sign cs).2 : Int)
          else Decimal.digitsValue 0 (Decimal.sign cs).2 := by
  simp only [wholeNumber?] at read
  split at read
  next known =>
      obtain ⟨nonempty, few, all⟩ := known
      have all := List.all_eq_true.1 all
      exact ⟨nonempty, all, Decimal.digitsValue_small all few, (Option.some.inj read).symm⟩
  next => exact absurd read (by simp)

theorem range_of_wholeNumber? {cs : List Char} {n : Int} (read : wholeNumber? cs = some n) :
    ∀ c ∈ cs, c = '-' ∨ c = '+' ∨ 48 ≤ c.toNat ∧ c.toNat ≤ 57 := by
  obtain ⟨_, all, _, _⟩ := wholeNumber?_eq_some read
  have digits : ∀ c ∈ (Decimal.sign cs).2, c = '-' ∨ c = '+' ∨ 48 ≤ c.toNat ∧ c.toNat ≤ 57 := by
    intro c member
    have digit := all c member
    exact .inr (.inr (by simpa [Char.isDigit, UInt32.le_iff_toNat_le] using digit))
  rcases sign_cases cs with ⟨same, _⟩ | ⟨same, _⟩ | ⟨same, _⟩
  · rw [same]
    exact List.forall_mem_cons.2 ⟨.inl rfl, digits⟩
  · rw [same]
    exact List.forall_mem_cons.2 ⟨.inr (.inl rfl), digits⟩
  · rw [same]
    exact digits

theorem trim_of_wholeNumber? {cs : List Char} {n : Int} (read : wholeNumber? cs = some n) : trim cs = cs := by
  refine trim_eq_self fun c member => ?_
  rcases range_of_wholeNumber? read c member with rfl | rfl | range
  · decide
  · decide
  · simp only [isBlank, Bool.or_eq_false_iff, Bool.and_eq_false_iff, decide_eq_false_iff_not, beq_eq_false_iff_ne]
    omega

theorem signed_mul (negative : Bool) (n unit : Nat) :
    (if negative then -((n * unit : Nat) : Int) else (n * unit : Nat))
      = (if negative then -(n : Int) else n) * unit := by
  cases negative with
  | true => rw [if_pos rfl, if_pos rfl, Int.natCast_mul, Int.neg_mul]
  | false => rw [if_neg Bool.false_ne_true, if_neg Bool.false_ne_true, Int.natCast_mul]

/-- A whole number is read as a number of the binary64 format without any loss. -/
theorem readNumber?_of_wholeNumber? {s : String} {n : Int} (read : wholeNumber? s.toList = some n) :
    ∃ x, readNumber? s = some x ∧ x.value = n * Binary64.one := by
  obtain ⟨nonempty, all, small, value⟩ := wholeNumber?_eq_some read
  have denoted : Decimal.ofText? s.toList
      = some ⟨(Decimal.sign s.toList).1, Decimal.digitsValue 0 (Decimal.sign s.toList).2, 0⟩ := by
    have solid : (Decimal.sign s.toList).2.isEmpty = false := by simpa using nonempty
    rw [Decimal.ofText?]
    simp [Decimal.digits_eq all, Decimal.fraction, solid, Decimal.exponent?, Decimal.digitsValue]
  refine ⟨⟨(Decimal.sign s.toList).1, Decimal.digitsValue 0 (Decimal.sign s.toList).2 * Binary64.one⟩, ?_, ?_⟩
  · rw [readNumber?, trim_of_wholeNumber? read, denoted]
    exact Decimal.toBinary64?_whole _ small
  · rw [value, Binary64.value]
    exact signed_mul _ _ _

namespace Sql

theorem ofText_of_wholeNumber? {cs : List Char} {n : Int} (read : wholeNumber? cs = some n) :
    Numeral.ofText cs = ⟨(Decimal.sign cs).1, (Decimal.sign cs).2, false, [], none, true⟩ := by
  obtain ⟨nonempty, all, _, _⟩ := wholeNumber?_eq_some read
  have solid : cs.dropWhile isSpace = cs := by
    cases h : cs with
    | nil => rfl
    | cons c rest =>
        have noSpace : isSpace c = false := by
          rcases range_of_wholeNumber? read c (by simp [h]) with rfl | rfl | range
          · decide
          · decide
          · have other : c ≠ ' ' := by
              rintro rfl
              exact absurd range (by decide)
            simp only [isSpace, Bool.or_eq_false_iff, Bool.and_eq_false_iff, decide_eq_false_iff_not,
              beq_eq_false_iff_ne]
            exact ⟨other, by omega⟩
        simp [noSpace]
  rw [Numeral.ofText, solid]
  simp [Decimal.digits_eq all, Decimal.fraction, Numeral.splitExponent]

/-- A whole number is read as a whole number of the engine. -/
theorem ofNumeral_of_wholeNumber? {s : String} {n : Int} (read : wholeNumber? s.toList = some n) :
    Value.ofNumeral s = .integer n := by
  obtain ⟨_, _, small, value⟩ := wholeNumber?_eq_some read
  have numeral := ofText_of_wholeNumber? read
  have whole : (Numeral.ofText s.toList).integerPart = n := by rw [numeral, Numeral.integerPart, value]
  have noReal : (Numeral.ofText s.toList).isReal = false := by
    rw [numeral, Numeral.isReal]
    simp
  have bounds : -(10 ^ 15 : Int) < n ∧ n < 10 ^ 15 := by
    rw [value]
    split <;> omega
  have fits : Value.fits n = true := by
    have limits : Value.leastInteger = -9223372036854775808 ∧ Value.greatestInteger = 9223372036854775807 := by decide
    rw [Value.fits, limits.1, limits.2, Bool.and_eq_true, decide_eq_true_eq, decide_eq_true_eq]
    omega
  rw [Value.ofNumeral]
  simp only [noReal, whole, fits]
  rfl

end Sql

end Datasheet
