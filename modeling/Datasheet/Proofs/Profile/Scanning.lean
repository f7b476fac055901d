import Datasheet.Proofs.Profile.Readings
import Datasheet.Proofs.Text.Collections
import Mathlib.Data.Finset.Card
import Mathlib.Data.List.Sort

/-! # What a scan of a column learns

A scan sees one cell after the other, and each of them can only close kinds and join the distinct cells. What it has
learned in the end is told here of the cells as a whole. It depends on which cells there are and neither on their
order nor on how often each of them stands in the column.
-/

namespace Datasheet

variable {cells other : List String}

theorem all_filled_iff {p : String → Bool} :
    (cells.all fun cell => cell.isEmpty || p cell) = true ↔ ∀ cell ∈ cells, cell ≠ "" → p cell = true := by
  simp [List.all_eq_true, or_iff_not_imp_left]

/-- Text if no cell is filled; otherwise what all filled cells can be read as, dates before numbers. -/
theorem Kind.ofCells_eq (cells : List String) :
    Kind.ofCells cells =
      if ∀ cell ∈ cells, cell = "" then .text
      else if ∀ cell ∈ cells, cell ≠ "" → isIsoMoment cell = true then .date
      else if ∀ cell ∈ cells, cell ≠ "" → (readNumber? cell).isSome = true then .number
      else .text := by
  have unfilled : cells.all String.isEmpty = true ↔ ∀ cell ∈ cells, cell = "" := by simp [List.all_eq_true]
  rw [ofCells, OpenKinds.foldl_observe, OpenKinds.kind]
  simp only [Bool.true_and, unfilled, all_filled_iff, settled]

theorem Kind.settled_ofCells (cells : List String) : (Kind.ofCells cells).settled = Kind.ofCells cells := by
  rw [ofCells_eq]
  split
  · rfl
  · split
    · rfl
    · split <;> rfl

theorem Kind.ofCells_congr (same : ∀ cell, cell ∈ cells ↔ cell ∈ other) : Kind.ofCells cells = Kind.ofCells other := by
  rw [ofCells_eq, ofCells_eq]
  simp only [same]

theorem StringSet.ofList_congr (same : ∀ cell, cell ∈ cells ↔ cell ∈ other) : ofList cells = ofList other := by
  refine (isAscending_ofList cells).eq_of_mem_iff (isAscending_ofList other) fun cell => ?_
  rw [mem_ofList, mem_ofList, same]

theorem StringSet.length_ofList (strings : List String) : (ofList strings).length = strings.toFinset.card := by
  rw [← List.toFinset_card_of_nodup (isAscending_ofList strings).nodup]
  refine congrArg Finset.card (List.toFinset.ext fun s => ?_)
  exact mem_ofList

namespace Profile

theorem ofCells_congr (same : ∀ cell, cell ∈ cells ↔ cell ∈ other) (maxDistinct : Nat) :
    ofCells cells maxDistinct = ofCells other maxDistinct := by
  rw [ofCells, ofCells, Kind.ofCells_congr same, StringSet.ofList_congr same]

/-- The distinct cells are kept exactly of a column of text that has few of them. -/
theorem isSome_mainValues (cells : List String) (maxDistinct : Nat) :
    (ofCells cells maxDistinct).mainValues.isSome = true
      ↔ (ofCells cells maxDistinct).kind = .text ∧ (ofCells cells maxDistinct).distinct ≤ maxDistinct := by
  simp only [ofCells]
  split
  next few => simp [few]
  next many => simp [many]

/-- A profile says of a column what all its cells say at once. -/
structure Describes (p : Profile) (cells : List String) (maxDistinct : Nat) : Prop where
  /-- Text if no cell is filled; otherwise what all filled cells can be read as, dates before numbers. -/
  kind : p.kind =
    if ∀ cell ∈ cells, cell = "" then .text
    else if ∀ cell ∈ cells, cell ≠ "" → isIsoMoment cell = true then .date
    else if ∀ cell ∈ cells, cell ≠ "" → (readNumber? cell).isSome = true then .number
    else .text
  /-- The kind that is found without a profile is the same. -/
  inferred : Kind.ofCells cells = p.kind
  /-- Cells are told apart as they are written, and the empty one counts too. -/
  distinct : p.distinct = cells.toFinset.card
  kept : p.mainValues.isSome = true ↔ p.kind = .text ∧ p.distinct ≤ maxDistinct
  values : ∀ values, p.mainValues = some values → values.IsAscending ∧ ∀ s, s ∈ values ↔ s ∈ cells

theorem describes_ofCells (cells : List String) (maxDistinct : Nat) :
    (ofCells cells maxDistinct).Describes cells maxDistinct where
  kind := Kind.ofCells_eq cells
  inferred := rfl
  distinct := StringSet.length_ofList cells
  kept := isSome_mainValues cells maxDistinct
  values := by
    intro values kept
    simp only [ofCells] at kept
    split at kept
    · obtain rfl := Option.some.inj kept
      exact ⟨StringSet.isAscending_ofList cells, fun s => StringSet.mem_ofList⟩
    · cases kept

/-- The profile of a column describes its cells, and it is that of the set of them: the same cells in another order, or some
    of them more often, have the same profile. -/
theorem tells_of_set (cells : List String) (maxDistinct : Nat) :
    (ofCells cells maxDistinct).Describes cells maxDistinct ∧
    ∀ other, (∀ cell, cell ∈ other ↔ cell ∈ cells) → ofCells other maxDistinct = ofCells cells maxDistinct :=
  ⟨describes_ofCells cells maxDistinct, fun _ same => ofCells_congr same maxDistinct⟩

/-- Departments in another order, one of them twice: the same three values, the empty one among them, are kept. -/
theorem tells_of_set_departments :
    let cells := ["Sales", "", "Marketing", "Sales"]
    let p := ofCells cells 3
    ofCells ["", "Marketing", "Sales"] 3 = p ∧ p.kind = .text ∧ p.distinct = 3 ∧
      ∃ values, p.mainValues = some values ∧ ∀ s, s ∈ values ↔ s ∈ cells := by
  intro cells p
  obtain ⟨described, congr⟩ := tells_of_set cells 3
  have text : p.kind = .text := described.kind.trans (by decide +kernel)
  have few : p.distinct = 3 := described.distinct.trans (by decide)
  obtain ⟨values, here⟩ := Option.isSome_iff_exists.1 (described.kept.2 ⟨text, few.le⟩)
  exact ⟨congr _ (by simp [cells, or_left_comm]), text, few, values, here, (described.values values here).2⟩

end Profile

end Datasheet
