import Mathlib.Data.String.Basic
import Datasheet.Text.Blank

/-! # Pieces of a text

A text is cut into pieces at a mark, and pieces are joined by one. A mark that no piece has is where the joined text is
cut again.
-/

namespace Datasheet.Text

variable {α : Type} {pieces : List (List α)}

theorem splitWhen_eq_splitOnP (p : α → Bool) (cs : List α) : splitWhen p cs = cs.splitOnP p := by
  induction cs with
  | nil => rfl
  | cons c rest ih =>
      rw [splitWhen, ih, List.splitOnP_cons_eq_if_modifyHead]
      cases pieces : rest.splitOnP p with
      | nil => exact absurd pieces (List.splitOnP_ne_nil p rest)
      | cons piece pieces => rfl

theorem joinWith_eq_intercalate (separator : List α) (pieces : List (List α)) :
    joinWith separator pieces = separator.intercalate pieces := by
  induction pieces with
  | nil => rfl
  | cons piece pieces ih =>
      cases pieces with
      | nil => simp [joinWith]
      | cons other pieces => simp [joinWith, ih, List.intercalate_cons_cons]

theorem splitOn_joinWith [BEq α] [LawfulBEq α] {mark : α} (unmarked : ∀ piece ∈ pieces, mark ∉ piece)
    (nonempty : pieces ≠ []) : (joinWith [mark] pieces).splitOn mark = pieces := by
  rw [joinWith_eq_intercalate]
  exact List.splitOn_intercalate mark unmarked nonempty

theorem eq_false_of_mem_splitWhen {p : α → Bool} {cs piece : List α} (member : piece ∈ splitWhen p cs) :
    ∀ c ∈ piece, p c = false := by
  induction cs generalizing piece with
  | nil =>
      obtain rfl := List.mem_singleton.1 member
      simp
  | cons c rest ih =>
      rw [splitWhen] at member
      cases cut : p c with
      | true =>
          rw [if_pos cut] at member
          rcases List.mem_cons.1 member with rfl | later
          · simp
          · exact ih later
      | false =>
          rw [if_neg (by simp [cut])] at member
          cases pieces : splitWhen p rest with
          | nil =>
              rw [pieces] at member
              obtain rfl := List.mem_singleton.1 member
              simpa using cut
          | cons first later =>
              rw [pieces] at member ih
              rcases List.mem_cons.1 member with rfl | member
              · exact List.forall_mem_cons.2 ⟨cut, ih List.mem_cons_self⟩
              · exact ih (List.mem_cons_of_mem _ member)

theorem splitWhen_ne_nil (p : α → Bool) (cs : List α) : splitWhen p cs ≠ [] := by
  rw [splitWhen_eq_splitOnP]
  exact List.splitOnP_ne_nil p cs

theorem forall_joinWith {P : α → Prop} {separator : α} (between : P separator)
    (inside : ∀ piece ∈ pieces, ∀ t ∈ piece, P t) : ∀ t ∈ joinWith [separator] pieces, P t := by
  induction pieces with
  | nil => simp [joinWith]
  | cons piece pieces ih =>
      cases pieces with
      | nil => simpa [joinWith] using inside
      | cons other pieces =>
          have first := inside piece List.mem_cons_self
          have rest := ih fun piece member => inside piece (List.mem_cons_of_mem _ member)
          intro t member
          simp only [joinWith, List.mem_append, List.mem_singleton] at member
          rcases member with (member | rfl) | member
          · exact first t member
          · exact between
          · exact rest t (by simpa [joinWith] using member)

theorem mem_joinWith {separator : α} {piece : List α} (member : piece ∈ pieces) {t : α} (inside : t ∈ piece) :
    t ∈ joinWith [separator] pieces := by
  induction pieces with
  | nil => exact absurd member List.not_mem_nil
  | cons first pieces ih =>
      cases pieces with
      | nil =>
          obtain rfl := List.mem_singleton.1 member
          exact inside
      | cons other pieces =>
          rw [joinWith]
          · rcases List.mem_cons.1 member with rfl | member
            · exact List.mem_append_left _ (List.mem_append_left _ inside)
            · exact List.mem_append_right _ (ih member)
          · exact List.cons_ne_nil _ _

theorem length_le_joinWith (separator : α) (solid : ∀ piece ∈ pieces, piece ≠ []) :
    pieces.length ≤ (joinWith [separator] pieces).length := by
  induction pieces with
  | nil => exact Nat.zero_le _
  | cons piece pieces ih =>
      have first := List.length_pos_iff.2 (solid piece List.mem_cons_self)
      have rest := ih fun p member => solid p (List.mem_cons_of_mem _ member)
      cases pieces with
      | nil => simpa [joinWith, Nat.succ_le_iff] using first
      | cons other pieces =>
          rw [joinWith, List.length_append, List.length_append, List.length_cons]
          · omega
          · exact List.cons_ne_nil _ _

end Datasheet.Text
