import Datasheet.Proofs.Calendar.Openings
import Datasheet.Profile

/-! # Readings of a cell

A filled cell is read as a number, as a date in one of its notations, or as a text alone; no cell is read in two ways. What
tries the readings one after the other may therefore try them in any order.
-/

namespace Datasheet

/-! ## What a scan leaves open -/

theorem of_all_filled {p : String → Bool} {cells : List String} {cell : String}
    (all : (cells.all fun cell => cell.isEmpty || p cell) = true) (member : cell ∈ cells) (filled : cell ≠ "") :
    p cell = true := by
  rcases Bool.or_eq_true_iff.1 (List.all_eq_true.1 all cell member) with empty | holds
  · exact absurd (by simpa using empty) filled
  · exact holds

namespace OpenKinds

theorem foldl_observe (cells : List String) (kinds : OpenKinds) :
    cells.foldl observe kinds
      = ⟨kinds.number && cells.all fun cell => cell.isEmpty || (readNumber? cell).isSome,
          kinds.date && cells.all fun cell => cell.isEmpty || isIsoMoment cell, kinds.empty && cells.all String.isEmpty⟩ := by
  induction cells generalizing kinds with
  | nil => simp
  | cons cell cells ih =>
      rw [List.foldl_cons, ih, observe]
      simp only [List.all_cons]
      split
      next empty => simp [empty]
      next filled => simp [Bool.eq_false_iff.2 filled, Bool.and_assoc]

/-- The kind of a column, if numbers won over dates. -/
def kindNumbersFirst (kinds : OpenKinds) : Kind :=
  if kinds.empty then Kind.empty.settled
  else if kinds.number then .number
  else if kinds.date then .date
  else .text

theorem kind_eq_kindNumbersFirst {kinds : OpenKinds} (one : ¬(kinds.date = true ∧ kinds.number = true)) :
    kinds.kind = kinds.kindNumbersFirst := by
  rw [kind, kindNumbersFirst]
  by_cases date : kinds.date = true
  · have number : ¬kinds.number = true := fun number => one ⟨date, number⟩
    simp only [date, number, if_true, Bool.false_eq_true, if_false]
  · simp only [date, Bool.false_eq_true, if_false]

end OpenKinds

theorem Kind.isIsoMoment_of_ofCells {cells : List String} (date : Kind.ofCells cells = .date) {cell : String}
    (member : cell ∈ cells) (filled : cell ≠ "") : isIsoMoment cell = true := by
  have dated : (cells.foldl OpenKinds.observe {}).date = true := by
    rw [Kind.ofCells, OpenKinds.kind] at date
    split at date
    next => exact absurd date (by decide)
    next =>
        split at date
        next known => exact known
        next => split at date <;> exact absurd date (by decide)
  rw [OpenKinds.foldl_observe, Bool.true_and] at dated
  exact of_all_filled dated member filled

/-- A filled cell leaves dates or numbers open, and not both. -/
theorem OpenKinds.date_or_number {cells : List String} {cell : String} (member : cell ∈ cells) (filled : cell ≠ "") :
    ¬((cells.foldl observe {}).date = true ∧ (cells.foldl observe {}).number = true) := by
  rw [foldl_observe]
  simp only [Bool.true_and]
  rintro ⟨dates, numbers⟩
  exact DateNotation.not_isSome_readNumber? (of_all_filled dates member filled) (of_all_filled numbers member filled)

/-! ## Readings -/

/-- A way to read a cell. Every cell is a text besides. -/
inductive CellReading where
  | number
  | date (form : DateNotation)
  deriving DecidableEq, Repr

/-- The reading accepts the text. -/
def CellReading.Accepts : CellReading → String → Prop
  | number, s => (readNumber? s).isSome
  | date form, s => (form.read? s).isSome

instance (reading : CellReading) (s : String) : Decidable (reading.Accepts s) :=
  match reading with
  | .number => inferInstanceAs (Decidable ((readNumber? s).isSome = true))
  | .date form => inferInstanceAs (Decidable ((form.read? s).isSome = true))

theorem CellReading.accepts_unique {reading reading' : CellReading} {s : String} (accepts : reading.Accepts s)
    (accepts' : reading'.Accepts s) : reading = reading' := by
  cases reading with
  | number =>
      cases reading' with
      | number => rfl
      | date form => exact absurd accepts (DateNotation.not_isSome_readNumber? accepts')
  | date form =>
      cases reading' with
      | number => exact absurd accepts' (DateNotation.not_isSome_readNumber? accepts)
      | date form' =>
          obtain ⟨m, read⟩ := Option.isSome_iff_exists.1 accepts
          obtain ⟨m', read'⟩ := Option.isSome_iff_exists.1 accepts'
          rw [DateNotation.eq_of_read read read']

/-- At most one reading accepts a text. So whatever order the notations of dates are tried in, the same moment is read, and
    whether dates or numbers win decides nothing about a column with a filled cell. -/
theorem readings_exclude_each_other :
    (∀ (s : String) (reading reading' : CellReading), reading.Accepts s → reading'.Accepts s → reading = reading')
      ∧ (∀ (s : String) (notations notations' : List DateNotation), (∀ form, form ∈ notations ↔ form ∈ notations') →
          DateNotation.readFirst? notations s = DateNotation.readFirst? notations' s)
      ∧ ∀ cells : List String, (∃ cell ∈ cells, cell ≠ "") →
          ¬((cells.foldl OpenKinds.observe {}).date = true ∧ (cells.foldl OpenKinds.observe {}).number = true)
            ∧ Kind.ofCells cells = (cells.foldl OpenKinds.observe {}).kindNumbersFirst := by
  refine ⟨fun s reading reading' => CellReading.accepts_unique, fun s notations notations' same => ?_, ?_⟩
  · ext m
    simp only [DateNotation.readFirst?_eq_some_iff, same]
  · rintro cells ⟨cell, member, filled⟩
    have one := OpenKinds.date_or_number member filled
    exact ⟨one, OpenKinds.kind_eq_kindNumbersFirst one⟩

/-- A legacy date is no number and is read in either order, and a column of dates stays one if numbers win. -/
theorem readings_exclude_each_other_deadlines :
    ¬CellReading.number.Accepts "31/12/2021 11:30:00 PM"
      ∧ DateNotation.readFirst? [.legacy, .isoOffset] "31/12/2021 11:30:00 PM" = some ⟨⟨2021, 12, 31⟩, 23, 30, 0, 0, 0⟩
      ∧ (["", "2021-12-31T23:30Z"].foldl OpenKinds.observe {}).kindNumbersFirst = .date := by
  obtain ⟨unique, anyOrder, anyWinner⟩ := readings_exclude_each_other
  refine ⟨fun number => ?_, ?_, ?_⟩
  · exact absurd (unique _ _ (.date .legacy) number (by decide +kernel)) (by decide)
  · exact (anyOrder _ _ DateNotation.ofCells (by simp [DateNotation.ofCells, or_comm])).trans (by decide +kernel)
  · exact (anyWinner _ ⟨"2021-12-31T23:30Z", by decide, by decide⟩).2.symm.trans (by decide +kernel)

end Datasheet
