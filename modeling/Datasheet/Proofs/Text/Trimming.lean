import Mathlib.Data.List.DropRight
import Mathlib.Data.List.TakeWhile
import Datasheet.Text.Blank

/-! # Trimming

Blanks are taken off both ends of a text, and nothing else.
-/

namespace Datasheet.Text

/-- A text has a last character, and that is no blank. -/
def EndsSolid (cs : List Char) : Prop := ∃ front c, cs = front ++ [c] ∧ isBlank c = false

variable {front back : List Char}

theorem EndsSolid.append (front : List Char) (solid : EndsSolid back) : EndsSolid (front ++ back) := by
  obtain ⟨back, c, rfl, other⟩ := solid
  exact ⟨front ++ back, c, (List.append_assoc _ _ _).symm, other⟩

theorem endsSolid_of_all {cs : List Char} (nonempty : cs ≠ []) (solid : ∀ c ∈ cs, isBlank c = false) : EndsSolid cs :=
  ⟨cs.dropLast, cs.getLast nonempty, (List.dropLast_concat_getLast nonempty).symm, solid _ (List.getLast_mem nonempty)⟩

theorem EndsSolid.trimEnd_append (solid : EndsSolid front) (back : List Char) :
    trimEnd (front ++ back) = front ++ trimEnd back := by
  obtain ⟨front, c, rfl, other⟩ := solid
  rw [List.append_assoc]
  induction front with
  | nil =>
      rw [List.nil_append, List.singleton_append, trimEnd]
      split
      next done => rw [if_neg (by simp [other]), done]; rfl
      next => rfl
  | cons d front ih =>
      rw [List.cons_append, trimEnd, ih]
      cases front <;> rfl

theorem EndsSolid.trimEnd {cs : List Char} (solid : EndsSolid cs) : trimEnd cs = cs := by
  simpa [Text.trimEnd] using solid.trimEnd_append []

theorem endsSolid_trimEnd (cs : List Char) : Text.trimEnd cs = [] ∨ EndsSolid (Text.trimEnd cs) := by
  induction cs with
  | nil => exact .inl rfl
  | cons c cs ih =>
      rw [Text.trimEnd]
      split
      next =>
          split
          next => exact .inl rfl
          next solid => exact .inr ⟨[], c, rfl, by simpa using solid⟩
      next inner => exact .inr ((ih.resolve_left inner).append [c])

theorem trimStart_of_solid {c : Char} (cs : List Char) (solid : isBlank c = false) : trimStart (c :: cs) = c :: cs := by
  simp [trimStart, solid]

theorem trimStart_trim (cs : List Char) : trimStart (trim cs) = trim cs := by
  rw [trim]
  cases front : trimStart cs with
  | nil => rfl
  | cons c rest =>
      have solid : isBlank c = false := by
        have head := List.head?_dropWhile_not isBlank cs
        rw [trimStart] at front
        simpa [front] using head
      rw [Text.trimEnd]
      split <;> simp [trimStart_of_solid, solid]

theorem trim_trim (cs : List Char) : trim (trim cs) = trim cs := by
  have twice : Text.trimEnd (trim cs) = trim cs := by
    rcases endsSolid_trimEnd (trimStart cs) with empty | solid
    · rw [trim, empty, Text.trimEnd]
    · exact solid.trimEnd
  rw [trim, trimStart_trim, twice]

theorem trimEnd_blanks {cs : List Char} (blank : ∀ c ∈ cs, isBlank c = true) : trimEnd cs = [] := by
  induction cs with
  | nil => rfl
  | cons c cs ih =>
      obtain ⟨first, rest⟩ := List.forall_mem_cons.1 blank
      rw [trimEnd, ih rest]
      exact if_pos first

/-- Of blanks around a text that starts and ends solid nothing is left, and the text stays. -/
theorem trim_between {c : Char} {cs : List Char} (solid : isBlank c = false) (ends : EndsSolid (c :: cs))
    (blank : ∀ b ∈ front, isBlank b = true) (blank' : ∀ b ∈ back, isBlank b = true) :
    trim (front ++ (c :: cs ++ back)) = c :: cs := by
  have start : trimStart (front ++ (c :: cs ++ back)) = c :: cs ++ back := by
    rw [trimStart, List.dropWhile_append_of_pos blank]
    exact trimStart_of_solid (cs ++ back) solid
  rw [trim, start, ends.trimEnd_append, trimEnd_blanks blank', List.append_nil]

theorem trim_of_solid {c : Char} {cs : List Char} (solid : isBlank c = false) (ends : EndsSolid (c :: cs)) :
    trim (c :: cs) = c :: cs := by
  rw [trim, trimStart_of_solid cs solid, ends.trimEnd]

theorem trim_eq_self {cs : List Char} (solid : ∀ c ∈ cs, isBlank c = false) : trim cs = cs := by
  cases cs with
  | nil => rfl
  | cons c cs => exact trim_of_solid (solid c List.mem_cons_self) (endsSolid_of_all (List.cons_ne_nil c cs) solid)

theorem mem_trimEnd_or {cs : List Char} {c : Char} (member : c ∈ cs) : c ∈ trimEnd cs ∨ isBlank c = true := by
  induction cs with
  | nil => exact absurd member (by simp)
  | cons d cs ih =>
      rw [trimEnd]
      rcases List.mem_cons.1 member with rfl | later
      · split
        next =>
            split
            next blank => exact .inr blank
            next => exact .inl List.mem_cons_self
        next => exact .inl List.mem_cons_self
      · rcases ih later with kept | blank
        · split
          next done => exact absurd kept (by simp [done])
          next => exact .inl (List.mem_cons_of_mem _ kept)
        · exact .inr blank

theorem trimEnd_sublist (cs : List Char) : (trimEnd cs).Sublist cs := by
  induction cs with
  | nil => exact .slnil
  | cons d cs ih =>
      rw [trimEnd]
      split
      next =>
          split
          next => exact List.nil_sublist _
          next => exact (List.nil_sublist cs).cons_cons d
      next => exact ih.cons_cons d

theorem mem_trim_or {cs : List Char} {c : Char} (member : c ∈ cs) : c ∈ trim cs ∨ isBlank c = true := by
  rw [← List.takeWhile_append_dropWhile (p := isBlank) (l := cs)] at member
  rcases List.mem_append.1 member with start | rest
  · exact .inr (List.mem_takeWhile_imp start)
  · exact mem_trimEnd_or rest

theorem trim_sublist (cs : List Char) : (trim cs).Sublist cs :=
  (trimEnd_sublist _).trans (List.dropWhile_sublist _)

theorem trim_subset (cs : List Char) : trim cs ⊆ cs := (trim_sublist cs).subset

theorem trim_eq_nil_iff {cs : List Char} : trim cs = [] ↔ ∀ c ∈ cs, isBlank c = true := by
  constructor
  · intro empty c member
    exact (mem_trim_or member).resolve_left (by simp [empty])
  · intro blank
    rw [trim, trimStart, List.dropWhile_eq_nil_iff.2 blank, trimEnd]

theorem trimEnd_concat_blank {c : Char} (blank : isBlank c = true) (cs : List Char) : trimEnd (cs ++ [c]) = trimEnd cs := by
  induction cs with
  | nil => simp [trimEnd, blank]
  | cons d cs ih => rw [List.cons_append, trimEnd, trimEnd, ih]

theorem trimEnd_eq_rdropWhile (cs : List Char) : trimEnd cs = cs.rdropWhile isBlank := by
  induction cs using List.reverseRecOn with
  | nil => rfl
  | append_singleton cs c ih =>
      by_cases blank : isBlank c = true
      · rw [trimEnd_concat_blank blank, ih, List.rdropWhile_concat_pos _ _ _ blank]
      · rw [EndsSolid.trimEnd ⟨cs, c, rfl, by simpa using blank⟩, List.rdropWhile_concat_neg _ _ _ blank]

theorem trimEnd_map {f : Char → Char} (same : ∀ c, isBlank (f c) = isBlank c) (cs : List Char) :
    trimEnd (cs.map f) = (trimEnd cs).map f := by
  induction cs with
  | nil => rfl
  | cons c cs ih =>
      rw [List.map_cons, trimEnd, trimEnd, ih, same]
      cases kept : trimEnd cs with
      | nil => by_cases blank : isBlank c = true <;> simp [blank]
      | cons d rest => rfl

theorem trimmed_eq_self_iff {s : String} : trimmed s = s ↔ trim s.toList = s.toList := by
  rw [trimmed, ← String.toList_inj, String.toList_ofList]

theorem endsSolid_of_trimmed {s : String} (bare : trimmed s = s) : s = "" ∨ EndsSolid s.toList := by
  have same := trimmed_eq_self_iff.1 bare
  rcases endsSolid_trimEnd (trimStart s.toList) with empty | ends
  · exact .inl (String.toList_eq_nil_iff.1 (same.symm.trans empty))
  · exact .inr (same ▸ ends)

/-- What turns blanks into blanks, and nothing else into one, is done before or after trimming. -/
theorem trim_map {f : Char → Char} (same : ∀ c, isBlank (f c) = isBlank c) (cs : List Char) :
    trim (cs.map f) = (trim cs).map f := by
  have solid : isBlank ∘ f = isBlank := funext same
  rw [trim, trim, trimStart, trimStart, List.dropWhile_map, solid, trimEnd_map same]

end Datasheet.Text
