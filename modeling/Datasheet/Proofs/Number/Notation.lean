import Datasheet.Proofs.Calendar.Readers
import Datasheet.Proofs.Number.Figures

/-! # The notation of numbers

A number is written as an optional sign, digits with at most one point among or around them, and an optional exponent.
The reader takes the longest row of digits at each place. As neither a point nor the letter of an exponent is a digit, it
reads every text of the notation as the number that is written, and no other text.
-/

namespace Datasheet.Decimal

open Calendar

/-! ## The notation -/

/-- A sign, or none; true is minus. -/
inductive Sign : List Char → Bool → Prop
  | none : Sign [] false
  | plus : Sign ['+'] false
  | minus : Sign ['-'] true

/-- A point with the digits after it, or neither. -/
inductive Fraction : List Char → List Char → Prop
  | none : Fraction [] []
  | places {digits : List Char} (all : ∀ c ∈ digits, c.isDigit = true) : Fraction ('.' :: digits) digits

/-- The letter of an exponent with a whole number after it, or nothing. -/
inductive Exponent : List Char → Int → Prop
  | none : Exponent [] 0
  | power {letter : Char} {sign digits : List Char} {negative : Bool} (known : letter = 'e' ∨ letter = 'E')
      (signed : Sign sign negative) (nonempty : digits ≠ []) (all : ∀ c ∈ digits, c.isDigit = true) :
      Exponent (letter :: (sign ++ digits)) (if negative then -(digitsValue 0 digits : Int) else digitsValue 0 digits)

/-- The text stands for the number in decimal notation, with a digit before or after the point. -/
inductive Denotes : List Char → Decimal → Prop
  | made {sign whole fraction places exponent : List Char} {negative : Bool} {e : Int} (signed : Sign sign negative)
      (all : ∀ c ∈ whole, c.isDigit = true) (fractional : Fraction fraction places) (nonempty : whole ≠ [] ∨ places ≠ [])
      (power : Exponent exponent e) : Denotes (sign ++ (whole ++ (fraction ++ exponent)))
        ⟨negative, digitsValue (digitsValue 0 whole) places, e - places.length⟩

variable {cs : List Char} {d : Decimal}

/-! ## Reading what is written -/

theorem digits_append {ds rest : List Char} (all : ∀ c ∈ ds, c.isDigit = true) (stop : NoDigit rest) :
    digits (ds ++ rest) = (ds, rest) := by
  obtain ⟨front, back⟩ := takeWhile_digits all stop
  rw [digits, List.span_eq_takeWhile_dropWhile, front, back]

theorem Exponent.noDigit {e : Int} (power : Exponent cs e) : NoDigit cs := by
  cases power with
  | none => simp [NoDigit]
  | power known => exact noDigit_cons _ (by rcases known with rfl | rfl <;> rfl)

theorem Fraction.noDigit_append {fraction places exponent : List Char} {e : Int} (fractional : Fraction fraction places)
    (power : Exponent exponent e) : NoDigit (fraction ++ exponent) := by
  cases fractional with
  | none => exact power.noDigit
  | places => exact noDigit_cons _ rfl

theorem Fraction.fraction_append {text places exponent : List Char} {e : Int} (fractional : Fraction text places)
    (power : Exponent exponent e) : fraction (text ++ exponent) = (places, exponent) := by
  cases fractional with
  | none =>
      cases power with
      | none => rfl
      | power known => rcases known with rfl | rfl <;> rfl
  | places all => exact digits_append all power.noDigit

theorem Sign.sign_append {sign rest : List Char} {negative : Bool} (signed : Sign sign negative)
    (unsigned : ∀ c ∈ rest.head?, c ≠ '-' ∧ c ≠ '+') : Decimal.sign (sign ++ rest) = (negative, rest) := by
  cases signed with
  | plus | minus => rfl
  | none =>
      cases rest with
      | nil => rfl
      | cons c rest =>
          obtain ⟨minus, plus⟩ := unsigned c rfl
          rw [List.nil_append, Decimal.sign]
          · exact fun rest' same => minus (List.cons.inj same).1
          · exact fun rest' same => plus (List.cons.inj same).1

theorem isDigit_unsigned {c : Char} (digit : c.isDigit = true) : c ≠ '-' ∧ c ≠ '+' := by
  constructor <;> rintro rfl <;> exact absurd digit (by decide)

theorem Exponent.exponent?_eq {e : Int} (power : Exponent cs e) : exponent? cs = some e := by
  cases power with
  | none => rfl
  | @power letter sign ds negative known signed nonempty all =>
      have unsigned : ∀ c ∈ ds.head?, c ≠ '-' ∧ c ≠ '+' :=
        fun c member => isDigit_unsigned (all c (List.mem_of_mem_head? member))
      rw [exponent?, if_pos known, signed.sign_append unsigned]
      simp only [digits_eq all]

theorem Denotes.ofText?_eq (denotes : Denotes cs d) : ofText? cs = some d := by
  obtain ⟨signed, all, fractional, nonempty, power⟩ := denotes
  rename_i sign whole fraction places exponent negative e
  have unsigned : ∀ c ∈ (whole ++ (fraction ++ exponent)).head?, c ≠ '-' ∧ c ≠ '+' := by
    intro c member
    cases whole with
    | cons digit whole =>
        obtain rfl : digit = c := by simpa using member
        exact isDigit_unsigned (all digit List.mem_cons_self)
    | nil =>
        cases fractional with
        | none => exact absurd rfl (nonempty.resolve_left (by simp))
        | places =>
            obtain rfl : '.' = c := by simpa using member
            decide
  have solid : (whole.isEmpty && places.isEmpty) = false := by
    rw [← Bool.not_eq_true, Bool.and_eq_true, List.isEmpty_iff, List.isEmpty_iff]
    exact fun empty => nonempty.elim (· empty.1) (· empty.2)
  rw [ofText?, signed.sign_append unsigned]
  simp only [digits_append all (fractional.noDigit_append power), fractional.fraction_append power, solid,
    power.exponent?_eq]
  rfl

/-! ## Writing what is read -/

theorem sign_spec (cs : List Char) : ∃ s, cs = s ++ (sign cs).2 ∧ Sign s (sign cs).1 := by
  rcases sign_cases cs with ⟨same, negative⟩ | ⟨same, negative⟩ | ⟨same, negative⟩
  · exact ⟨['-'], same, negative ▸ .minus⟩
  · exact ⟨['+'], same, negative ▸ .plus⟩
  · exact ⟨[], same, negative ▸ .none⟩

theorem digits_spec (cs : List Char) : cs = (digits cs).1 ++ (digits cs).2 ∧ ∀ c ∈ (digits cs).1, c.isDigit = true := by
  rw [digits, List.span_eq_takeWhile_dropWhile]
  exact ⟨List.takeWhile_append_dropWhile.symm, fun c => List.mem_takeWhile_imp⟩

theorem fraction_spec (cs : List Char) : ∃ f, cs = f ++ (fraction cs).2 ∧ Fraction f (fraction cs).1 := by
  rw [fraction.eq_def]
  split
  next rest =>
      obtain ⟨same, all⟩ := digits_spec rest
      exact ⟨'.' :: (digits rest).1, congrArg _ same, .places all⟩
  next => exact ⟨[], rfl, .none⟩

theorem exponent?_spec {e : Int} (read : exponent? cs = some e) : Exponent cs e := by
  cases cs with
  | nil =>
      obtain rfl := Option.some.inj read
      exact .none
  | cons letter rest =>
      rw [exponent?] at read
      split at read
      next known =>
          obtain ⟨s, whole, signed⟩ := sign_spec rest
          obtain ⟨same, all⟩ := digits_spec (sign rest).2
          generalize sign rest = parts at read whole signed same all
          obtain ⟨negative, unsigned⟩ := parts
          simp only at read whole signed same all
          split at read
          next => cases read
          next nonempty ended =>
              rw [ended] at same all
              obtain rfl := Option.some.inj read
              rw [whole, same, List.append_nil]
              exact .power known signed nonempty all
          next => cases read
      next => cases read

/-- A text is read as a number exactly if it stands for the number. -/
theorem ofText?_eq_some_iff : ofText? cs = some d ↔ Denotes cs d := by
  refine ⟨fun read => ?_, Denotes.ofText?_eq⟩
  obtain ⟨s, whole, signed⟩ := sign_spec cs
  obtain ⟨afterSign, all⟩ := digits_spec (sign cs).2
  obtain ⟨f, afterWhole, fractional⟩ := fraction_spec (digits (sign cs).2).2
  rw [ofText?] at read
  simp only at read
  split at read
  next => cases read
  next nonempty =>
      obtain ⟨e, power, rfl⟩ := Option.map_eq_some_iff.1 read
      have nonempty : (digits (sign cs).2).1 ≠ [] ∨ (fraction (digits (sign cs).2).2).1 ≠ [] := by
        rw [Bool.and_eq_true, List.isEmpty_iff, List.isEmpty_iff] at nonempty
        exact not_and_or.1 nonempty
      have denotes := Denotes.made signed all fractional nonempty (exponent?_spec power)
      rwa [← afterWhole, ← afterSign, ← whole] at denotes

/-! ## Characters of the notation -/

theorem Denotes.exists_digit (denotes : Denotes cs d) : ∃ c ∈ cs, c.isDigit = true := by
  obtain ⟨_, all, fractional, nonempty, _⟩ := denotes
  rcases nonempty with nonempty | nonempty
  · obtain ⟨c, member⟩ := List.exists_mem_of_ne_nil _ nonempty
    exact ⟨c, by simp [member], all c member⟩
  · cases fractional with
    | none => exact absurd rfl nonempty
    | places all' =>
        obtain ⟨c, member⟩ := List.exists_mem_of_ne_nil _ nonempty
        exact ⟨c, by simp [member], all' c member⟩

theorem Denotes.not_isForeign (denotes : Denotes cs d) {c : Char} (member : c ∈ cs) : ¬IsForeign c := by
  intro foreign
  have read := foreign.ofText?_eq_none member
  rw [denotes.ofText?_eq] at read
  cases read

end Datasheet.Decimal
