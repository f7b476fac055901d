import Mathlib.Data.Nat.Digits.Defs
import Datasheet.Proofs.Calendar.Readers
import Datasheet.Proofs.Text.Trimming

/-! # Written parts of a moment

A number that is written in so many digits is read back in front of any text, and so are the marks between the numbers. The
lemmas stand for the parts; a notation is read by citing them in its order.
-/

namespace Datasheet

open Text Calendar

namespace Decimal

/-- A row of so many digits stands for a number. -/
structure Writes (digits : List Char) (count n : Nat) : Prop where
  all : ∀ c ∈ digits, c.isDigit = true
  length : digits.length = count
  value : digitsValue 0 digits = n

variable {digits : List Char} {count n : Nat}

theorem Writes.readDigits {least most : Nat} (writes : Writes digits count n) (rest : List Char) (enough : least ≤ count)
    (full : count = most) : readDigits least most (digits ++ rest) = some (n, rest) := by
  rw [readDigits_full rest writes.all (writes.length ▸ enough) (writes.length.trans full), writes.value]

theorem Writes.ne_nil (writes : Writes digits (count + 1) n) : digits ≠ [] := by
  rintro rfl
  exact absurd writes.length (by simp)

theorem Writes.exists_cons (writes : Writes digits (count + 1) n) :
    ∃ c rest, digits = c :: rest ∧ c.isDigit = true := by
  cases digits with
  | nil => exact absurd rfl writes.ne_nil
  | cons c rest => exact ⟨c, rest, rfl, writes.all c List.mem_cons_self⟩

theorem endsSolid_digits (nonempty : digits ≠ []) (all : ∀ c ∈ digits, c.isDigit = true) : EndsSolid digits :=
  endsSolid_of_all nonempty fun c member => isBlank_digit (all c member)

theorem Writes.endsSolid (writes : Writes digits (count + 1) n) : EndsSolid digits :=
  endsSolid_digits writes.ne_nil writes.all

theorem Writes.trimStart (writes : Writes digits (count + 1) n) (rest : List Char) :
    trimStart (digits ++ rest) = digits ++ rest := by
  obtain ⟨c, digits, rfl, digit⟩ := writes.exists_cons
  exact trimStart_of_solid _ (isBlank_digit digit)

theorem Writes.trim (writes : Writes digits (count + 1) n) {rest : List Char} (ends : EndsSolid rest) :
    trim (digits ++ rest) = digits ++ rest := by
  obtain ⟨c, digits, rfl, digit⟩ := writes.exists_cons
  exact trim_of_solid (isBlank_digit digit) (ends.append (c :: digits))

theorem Writes.readPadded (writes : Writes digits 2 n) (rest : List Char) :
    readPadded (digits ++ rest) = some (n, rest) := by
  rw [Calendar.readPadded, writes.trimStart, writes.readDigits rest (by decide) rfl]

theorem Writes.readTwo (writes : Writes digits 2 n) (rest : List Char) :
    Calendar.readDigits 2 2 (digits ++ rest) = some (n, rest) := writes.readDigits rest (by decide) rfl

theorem Writes.readDigits_short (writes : Writes digits 2 n) {rest : List Char} (stop : NoDigit rest) :
    Calendar.readDigits 4 4 (digits ++ rest) = none := by
  have stop' : NoDigit (rest.take 2) := by
    cases rest with
    | nil => exact stop
    | cons c rest => exact noDigit_cons _ (stop c rfl)
  have short := (takeWhile_digits writes.all stop').1
  rw [Calendar.readDigits, List.take_append, writes.length, List.take_of_length_le (by rw [writes.length]; decide)]
  simp only [short, writes.length, Nat.reduceSub, Nat.reduceLT, if_true]

theorem Writes.readUnsigned (writes : Writes digits (count + 1) n) (few : count + 1 ≤ 4) {rest : List Char}
    (stop : NoDigit rest) : readYear (digits ++ rest) = some ((n : Int), rest) := by
  have whole : Calendar.readDigits 1 4 (digits ++ rest) = some (digitsValue 0 digits, rest) :=
    readDigits_stop writes.all (by rw [writes.length]; omega) (by rw [writes.length]; exact few) stop
  rw [readYear.eq_def, writes.trimStart]
  obtain ⟨c, digits, rfl, digit⟩ := writes.exists_cons
  split
  next same => exact absurd digit (by rw [(List.cons.inj same).1]; decide)
  next same => exact absurd digit (by rw [(List.cons.inj same).1]; decide)
  next =>
      rw [whole, writes.value]
      rfl

theorem writes_padded {width n : Nat} (positive : 0 < width) (small : n < 10 ^ width) :
    Writes (padded width n) width n := by
  have few : (Nat.toDigits 10 n).length ≤ width := Nat.toDigits_length _ _ _ positive small
  refine ⟨List.forall_mem_append.2 ⟨fun c member => ?_, fun c => Nat.isDigit_of_mem_toDigits (by decide) (by decide)⟩, ?_, ?_⟩
  · rw [List.eq_of_mem_replicate member]
    rfl
  · rw [padded, List.length_append, List.length_replicate]
    omega
  · rw [padded, digitsValue_append, digitsValue_zeros fun c => List.eq_of_mem_replicate, digitsValue_toDigits]

end Decimal

namespace Calendar

open Decimal

variable {hours minutes : List Char} {hour minute : Nat}

theorem readMark_head {mark : Char} {cs : List Char} (other : ∀ c ∈ cs.head?, c ≠ mark) : readMark mark cs = none := by
  cases cs with
  | nil => rfl
  | cons c cs => exact if_neg (other c rfl)

theorem readFraction_head {cs : List Char} (other : ∀ c ∈ cs.head?, c ≠ '.') : readFraction cs = some (0, cs) := by
  rw [readFraction.eq_def]
  split
  next => exact absurd rfl (other '.' rfl)
  next => rfl

theorem readFraction_digits {digits rest : List Char} (all : ∀ c ∈ digits, c.isDigit = true) (nonempty : digits ≠ [])
    (stop : NoDigit rest) : readFraction ('.' :: (digits ++ rest))
      = some (digitsValue 0 (digits.take 9) * 10 ^ (9 - (digits.take 9).length), rest) := by
  simp [readFraction, (takeWhile_digits all stop).1, nonempty]

/-- Any separator that takes the colon may stand between the hours and the minutes of an offset. -/
theorem readOffset_signed {separator : List Char → Option (List Char)} (west : Bool) (writes : Writes hours 2 hour)
    (writes' : Writes minutes 2 minute) (most : minute ≤ 59) (separates : separator (':' :: minutes) = some minutes) :
    readOffset separator ((if west then '-' else '+') :: (hours ++ ':' :: minutes))
      = some (if west then -(60 * (hour : Int) + minute) else 60 * (hour : Int) + minute, []) := by
  have sign (cs : List Char) : readOffsetSign ((if west then '-' else '+') :: cs) = some (west, cs) := by
    cases west <;> rfl
  have second := writes'.readTwo []
  rw [List.append_nil] at second
  simp only [readOffset, sign, writes.readTwo, separates, second, Option.bind_eq_bind, Option.bind_some,
    if_neg (by omega : ¬60 ≤ minute)]

theorem readStrictOffset_signed (west : Bool) (writes : Writes hours 2 hour) (writes' : Writes minutes 2 minute)
    (most : minute ≤ 59) : readStrictOffset ((if west then '-' else '+') :: (hours ++ ':' :: minutes))
      = some (if west then -(60 * (hour : Int) + minute) else 60 * (hour : Int) + minute, []) := by
  rw [← readOffset_signed west writes writes' most (readMark_self ':' _)]
  cases west <;> rfl

theorem readLooseOffset_signed (west : Bool) (writes : Writes hours 2 hour) (writes' : Writes minutes 2 minute)
    (most : minute ≤ 59) : readLooseOffset ((if west then '-' else '+') :: (hours ++ ':' :: minutes))
      = some (if west then -(60 * (hour : Int) + minute) else 60 * (hour : Int) + minute, []) := by
  have separates : some ((':' :: minutes).dropWhile fun c => c == ':' || isBlank c) = some minutes := by
    obtain ⟨c, rest, rfl, digit⟩ := writes'.exists_cons
    have other : c ≠ ':' := by
      rintro rfl
      exact absurd digit (by decide)
    simp [other, isBlank_digit digit]
  rw [readLooseOffset, trimStart_of_solid _ (by cases west <;> decide), readOffset_signed west writes writes' most separates]

/-- A reader goes on with what its first part has read. -/
theorem reads_on {α β : Type} {x : Option α} {a : α} {next : α → Option β} (first : x = some a) : x.bind next = next a := by
  rw [first, Option.bind_some]

/-- Two readings of one text agree on what is read and on what is left. -/
theorem eq_of_reads {α β : Type} {x : Option (α × β)} {a a' : α} {b b' : β} (read : x = some (a, b))
    (read' : x = some (a', b')) : a = a' ∧ b = b' := Prod.mk.inj (Option.some.inj (read.symm.trans read'))

end Calendar

end Datasheet
