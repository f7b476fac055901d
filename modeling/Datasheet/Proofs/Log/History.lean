import Mathlib.Data.List.DropRight
import Datasheet.Proofs.Log.Lines

/-! # The history of a ring

A ring is filled one entry at a time, by hand or from lines, and cleared now and then. Whatever has been done to it, it
holds the end of what has been pushed since it was last cleared: all of that if there is room for it, and otherwise as
much as there is room for. What is read from a ring is the end of what it holds.
-/

namespace Datasheet.Log

namespace Ring

/-! ## Ends of lists -/

section

variable {α : Type} {xs : List α} {count : Nat}

theorem lastOf_eq_rtake (count : Nat) (xs : List α) : lastOf count xs = xs.rtake count :=
  (List.rtake_eq_reverse_take_reverse xs count).symm

theorem length_rtake (count : Nat) (xs : List α) : (xs.rtake count).length = min count xs.length := by
  rw [List.rtake, List.length_drop]
  omega

theorem rtake_of_length_le (short : xs.length ≤ count) : xs.rtake count = xs := by
  rw [List.rtake, Nat.sub_eq_zero_of_le short, List.drop_zero]

theorem rtake_min_length (count : Nat) (xs : List α) : xs.rtake (min count xs.length) = xs.rtake count := by
  rw [List.rtake, List.rtake]
  congr 1
  omega

theorem drop_rtake (enough : count < xs.length) : (xs.rtake (count + 1)).drop 1 = xs.rtake count := by
  rw [List.rtake, List.rtake, List.drop_drop]
  congr 1
  omega

/-- Of the last elements those of a kind are the last ones of their kind. -/
theorem filter_rtake_suffix (p : α → Bool) (count : Nat) (xs : List α) :
    (xs.rtake count).filter p <:+ (xs.filter p).rtake count := by
  have inEnd : (xs.rtake count).filter p <:+ xs.filter p := (List.drop_suffix _ xs).filter p
  have inKind : (xs.filter p).rtake count <:+ xs.filter p := List.drop_suffix _ _
  apply List.suffix_of_suffix_length_le inEnd inKind
  have few : ((xs.rtake count).filter p).length ≤ (xs.rtake count).length := List.length_filter_le ..
  have inside := inEnd.length_le
  rw [length_rtake] at few ⊢
  omega

end

/-! ## Steps -/

/-- What can be done to a ring. -/
inductive Step where
  | push (e : Entry)
  | write (bytes : List UInt8)
  | clear
  deriving DecidableEq, Repr

def perform (r : Ring) : Step → Ring
  | .push e => r.push e
  | .write bytes => r.writeBytes bytes
  | .clear => r.clear

def run (r : Ring) (steps : List Step) : Ring := steps.foldl perform r

/-- The entries that a step pushes. -/
def Step.pushed : Step → List Entry
  | .push e => [e]
  | .write bytes => entriesOfBytes bytes
  | .clear => []

/-- All entries that have been pushed since the ring was last cleared. -/
def pushedSince (steps : List Step) : List Entry := (steps.rtakeWhile (· ≠ .clear)).flatMap Step.pushed

theorem pushedSince_concat_clear (steps : List Step) : pushedSince (steps ++ [.clear]) = [] := by
  simp [pushedSince]

theorem pushedSince_concat {step : Step} (fills : step ≠ .clear) (steps : List Step) :
    pushedSince (steps ++ [step]) = pushedSince steps ++ step.pushed := by
  simp [pushedSince, fills]

/-! ## What one step keeps -/

/-- The ring has room for `capacity` entries, one at least, and holds the end of what has been pushed. -/
structure HoldsEnd (r : Ring) (capacity : Nat) (pushed : List Entry) : Prop where
  room : r.capacity = max capacity 1
  held : r.entries = pushed.rtake (max capacity 1)

variable {r : Ring} {capacity : Nat} {pushed : List Entry}

theorem holdsEnd_make (capacity : Nat) : (make capacity).HoldsEnd capacity [] := ⟨rfl, (List.rtake_nil _).symm⟩

theorem HoldsEnd.clear (holds : r.HoldsEnd capacity pushed) : r.clear.HoldsEnd capacity [] :=
  ⟨holds.room, (List.rtake_nil _).symm⟩

/-- A full ring loses its oldest entry for a new one, and only a full ring loses any. -/
theorem HoldsEnd.push (holds : r.HoldsEnd capacity pushed) (e : Entry) :
    (r.push e).HoldsEnd capacity (pushed ++ [e]) := by
  refine ⟨holds.room, ?_⟩
  obtain ⟨room, least⟩ : ∃ room, max capacity 1 = room + 1 := ⟨max capacity 1 - 1, by omega⟩
  rw [Ring.push, holds.held, holds.room, least, List.rtake_concat_succ, length_rtake]
  by_cases full : room < pushed.length
  · rw [if_pos (by omega), drop_rtake full]
  · rw [if_neg (by omega), rtake_of_length_le (by omega), rtake_of_length_le (by omega)]

theorem HoldsEnd.pushAll (holds : r.HoldsEnd capacity pushed) (entries : List Entry) :
    (entries.foldl Ring.push r).HoldsEnd capacity (pushed ++ entries) := by
  induction entries generalizing r pushed with
  | nil => simpa using holds
  | cons e entries ih => simpa using ih (holds.push e)

theorem HoldsEnd.perform {steps : List Step} (holds : r.HoldsEnd capacity (pushedSince steps)) (step : Step) :
    (r.perform step).HoldsEnd capacity (pushedSince (steps ++ [step])) := by
  cases step with
  | push e =>
      rw [pushedSince_concat (by simp)]
      exact holds.push e
  | write bytes =>
      rw [pushedSince_concat (by simp), Ring.perform, writeBytes_eq]
      exact holds.pushAll (entriesOfBytes bytes)
  | clear =>
      rw [pushedSince_concat_clear]
      exact holds.clear

/-! ## Whole runs -/

theorem holdsEnd_run (capacity : Nat) (steps : List Step) :
    ((make capacity).run steps).HoldsEnd capacity (pushedSince steps) := by
  induction steps using List.reverseRecOn with
  | nil => exact holdsEnd_make capacity
  | append_singleton steps step ih =>
      rw [run, List.foldl_append]
      exact ih.perform step

/-- Whatever has been pushed, written and cleared, a ring holds the most recent of the entries since it was last cleared,
    in the order in which they came: as many as it has room for, or all of them. The most recent entries are read from the
    end of these. Those of a target are read from the end of all entries of the target that are held, so there are more
    of them than among as many entries of any target, where other targets have come between. -/
theorem holds_most_recent (capacity : Nat) (steps : List Step) :
    let pushed := pushedSince steps
    let r := (make capacity).run steps
    r.size = min (max capacity 1) pushed.length
      ∧ r.entries = pushed.rtake (min (max capacity 1) pushed.length)
      ∧ (∀ count, r.recent count = r.entries.rtake (min count r.size))
      ∧ ∀ target count, r.recentFor target count = (r.entries.filter (·.target = target)).rtake count
        ∧ (r.recent count).filter (·.target = target) <:+ r.recentFor target count := by
  intro pushed r
  have holds := holdsEnd_run capacity steps
  refine ⟨?_, ?_, ?_, ?_⟩
  · rw [size, holds.held, length_rtake]
  · rw [rtake_min_length]
    exact holds.held
  · intro count
    rw [recent, lastOf_eq_rtake, size, rtake_min_length]
  · intro target count
    have matching : r.recentFor target count = (r.entries.filter (·.target = target)).rtake count := by
      rw [recentFor, lastOf_eq_rtake]
      rfl
    refine ⟨matching, ?_⟩
    rw [matching, recent, lastOf_eq_rtake]
    exact filter_rtake_suffix _ count r.entries

/-- A full ring loses its first entry. Both entries of a target that are left are found, though only one of them is among
    the last two entries. -/
theorem holds_most_recent_full :
    let first : Entry := ⟨.info, "sql", "a"⟩
    let last : Entry := ⟨.info, "sql", "c"⟩
    let r := (make 3).run [.push ⟨.info, "sql", "lost"⟩, .push first, .push ⟨.info, "query", "b"⟩, .push last]
    r.entries = [first, ⟨.info, "query", "b"⟩, last] ∧ r.recentFor "sql" 2 = [first, last]
      ∧ r.recent 2 = [⟨.info, "query", "b"⟩, last] := by
  intro first last r
  obtain ⟨size, entries, recent, recentFor⟩ := holds_most_recent 3
    [.push ⟨.info, "sql", "lost"⟩, .push first, .push ⟨.info, "query", "b"⟩, .push last]
  have held : r.entries = [first, ⟨.info, "query", "b"⟩, last] := entries.trans (by decide)
  refine ⟨held, (recentFor "sql" 2).1.trans ?_, (recent 2).trans ?_⟩
  · rw [held]
    decide
  · rw [held, size]
    decide

end Ring

end Datasheet.Log
