import Datasheet.Proofs.Calendar.Readers
import Datasheet.Proofs.Number.Figures
import Datasheet.Proofs.Text.Trimming

/-! # What a moment opens with

Every notation of a moment opens with digits, and the first character after them tells the notation: a hyphen, or a sign
in front of the year, in ISO-8601, and a slash in the legacy notation. So no text is read in both, and the colon of the
one and the slash of the other keep a number from being read.
-/

namespace Datasheet

open Text

namespace Calendar

variable {cs : List Char} {m : Moment}

/-- The character after the digits, if any, that a text starts with. -/
def Opens (cs : List Char) (mark : Char) : Prop := (cs.dropWhile Char.isDigit).head? = some mark

theorem Opens.mem {mark : Char} (opens : Opens cs mark) : mark ∈ cs :=
  (List.dropWhile_sublist _).subset (List.mem_of_head? opens)

theorem opens_cons {mark : Char} (rest : List Char) (other : mark.isDigit = false) : Opens (mark :: rest) mark := by
  simp [Opens, other]

theorem opens_of_readDigits {least most n : Nat} {mark : Char} {rest : List Char}
    (read : readDigits least most cs = some (n, mark :: rest)) (other : mark.isDigit = false) : Opens cs mark := by
  obtain ⟨digits, rfl, all⟩ := readDigits_eq_some read
  rw [Opens, (takeWhile_digits all (noDigit_cons rest other)).2, List.head?_cons]

theorem opens_of_readYear {year : Int} {rest : List Char} (solid : trimStart cs = cs)
    (read : readYear cs = some (year, '-' :: rest)) : Opens cs '-' ∨ Opens cs '+' := by
  rcases readYear_eq_some read with ⟨sign, start, n, signed, same, _⟩ | ⟨n, digits⟩
  · rw [← solid, same]
    rcases signed with rfl | rfl
    · exact .inl (opens_cons start (by decide))
    · exact .inr (opens_cons start (by decide))
  · rw [solid] at digits
    exact .inl (opens_of_readDigits digits (by decide))

theorem MinutesNotation.opens {date : Date} {hour minute : Nat} {rest : List Char} (solid : trimStart cs = cs)
    (parts : MinutesNotation cs date hour minute rest) : Opens cs '-' ∨ Opens cs '+' := by
  obtain ⟨years⟩ := parts
  exact opens_of_readYear solid years

theorem IsoNotation.opens (solid : trimStart cs = cs) (parts : IsoNotation cs m) : Opens cs '-' ∨ Opens cs '+' := by
  cases parts with
  | full parts =>
      obtain ⟨years⟩ := parts
      exact .inl (opens_of_readDigits years (by decide))
  | offset start | zulu start => exact start.opens solid

theorem LegacyNotation.opens (solid : trimStart cs = cs) (parts : LegacyNotation cs m) : Opens cs '/' := by
  obtain ⟨days⟩ := parts
  rw [readPadded, solid] at days
  exact opens_of_readDigits days (by decide)

end Calendar

open Calendar

namespace DateNotation

variable {s : String} {m : Moment}

theorem opens_of_isoOffset (read : isoOffset.read? s = some m) : Opens (trim s.toList) '-' ∨ Opens (trim s.toList) '+' :=
  (isoNotation_of_read read).opens (trimStart_trim s.toList)

theorem opens_of_legacy (read : legacy.read? s = some m) : Opens (trim s.toList) '/' :=
  (legacyNotation_of_readLegacy read).opens (trimStart_trim s.toList)

theorem isoOffset_eq_none {mark : Char} (opens : Opens (trim s.toList) mark) (other : mark ≠ '-' ∧ mark ≠ '+') :
    isoOffset.read? s = none := by
  by_contra known
  obtain ⟨m, read⟩ := Option.ne_none_iff_exists'.1 known
  rcases opens_of_isoOffset read with hyphen | plus
  · exact other.1 (Option.some.inj (opens.symm.trans hyphen))
  · exact other.2 (Option.some.inj (opens.symm.trans plus))

theorem legacy_eq_none {mark : Char} (opens : Opens (trim s.toList) mark) (other : mark ≠ '/') :
    legacy.read? s = none := by
  by_contra known
  obtain ⟨m, read⟩ := Option.ne_none_iff_exists'.1 known
  exact other (Option.some.inj (opens.symm.trans (opens_of_legacy read)))

/-- The notations have no text in common. -/
theorem eq_of_read {form form' : DateNotation} {m' : Moment} (read : form.read? s = some m)
    (read' : form'.read? s = some m') : form = form' := by
  have apart {m m' : Moment} (iso : isoOffset.read? s = some m) (old : legacy.read? s = some m') : False :=
    absurd iso (by simp [isoOffset_eq_none (opens_of_legacy old) (by decide)])
  cases form with
  | isoOffset =>
      cases form' with
      | isoOffset => rfl
      | legacy => exact (apart read read').elim
  | legacy =>
      cases form' with
      | isoOffset => exact (apart read' read).elim
      | legacy => rfl

/-- What is read first is what any of the notations reads. -/
theorem readFirst?_eq_some_iff {notations : List DateNotation} :
    readFirst? notations s = some m ↔ ∃ form ∈ notations, form.read? s = some m := by
  refine ⟨List.exists_of_findSome?_eq_some, fun ⟨form, member, read⟩ => ?_⟩
  have known : (readFirst? notations s).isSome := List.findSome?_isSome_iff.2 ⟨form, member, Option.isSome_of_eq_some read⟩
  obtain ⟨m', first⟩ := Option.isSome_iff_exists.1 known
  obtain ⟨form', _, read'⟩ := List.exists_of_findSome?_eq_some first
  obtain rfl := eq_of_read read read'
  rw [first, ← read, read']

theorem not_isSome_readNumber? {form : DateNotation} (date : (form.read? s).isSome) : ¬(readNumber? s).isSome := by
  obtain ⟨m, read⟩ := Option.isSome_iff_exists.1 date
  have foreign : ∃ c ∈ trim s.toList, Decimal.IsForeign c := by
    cases form with
    | isoOffset => exact ⟨':', (hasColon_of_read read).2, by decide⟩
    | legacy => exact ⟨'/', (opens_of_legacy read).mem, by decide⟩
  obtain ⟨c, member, foreign⟩ := foreign
  rw [readNumber?, foreign.ofText?_eq_none member]
  simp

end DateNotation

end Datasheet
