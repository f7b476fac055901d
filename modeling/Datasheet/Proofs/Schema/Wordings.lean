import Datasheet.Proofs.Schema.Edits
import Datasheet.Proofs.Schema.Inference
import Datasheet.Proofs.Text.Folding

/-! # What fields answer to

The blanks around a question are dropped before it is compared with the names of a field, and the names are taken as they
are. So of all that a field is called, it answers to what has no blanks around it, in any case of ASCII letters and with
any blanks around the question, and a name that has blanks around it is never what answers, not even to itself.
-/

namespace Datasheet

open Text

theorem StringSet.mem_remove_of_ne {s t : String} {set : StringSet} (member : t ∈ set) (other : t ≠ s) :
    t ∈ remove s set := by
  induction set with
  | nil => cases member
  | cons head rest ih =>
      rw [remove]
      split
      next here =>
          subst here
          exact (List.mem_cons.1 member).resolve_left other
      next =>
          rcases List.mem_cons.1 member with rfl | inside
          · exact List.mem_cons_self
          · exact List.mem_cons_of_mem _ (ih inside)

namespace Field

variable {f : Field} {language synonym known asked : String}

/-! ## Texts without blanks around them -/

theorem sameIgnoringCase_iff {a b : String} :
    sameIgnoringCase a b = true ↔ a.toList.map lowerAscii = b.toList.map lowerAscii := by
  simp [sameIgnoringCase]

theorem isBlank_lowerAscii (c : Char) : isBlank (lowerAscii c) = isBlank c := by
  have lowered := toNat_lowerAscii c
  by_cases capital : 65 ≤ c.toNat ∧ c.toNat ≤ 90
  · rw [if_pos capital] at lowered
    rw [Bool.eq_iff_iff]
    simp only [isBlank, lowered, Bool.or_eq_true, Bool.and_eq_true, decide_eq_true_eq, beq_iff_eq]
    omega
  · rw [if_neg capital] at lowered
    rw [char_ext lowered]

/-- A text that is the same as a trimmed one up to case has no blanks around it. -/
theorem trimmed_of_same (same : sameIgnoringCase known (trimmed asked) = true) : trimmed known = known := by
  have letters : known.toList.map lowerAscii = (trim asked.toList).map lowerAscii := by
    simpa [sameIgnoringCase_iff, trimmed] using same
  have unchanged : (trim known.toList).map lowerAscii = known.toList.map lowerAscii :=
    calc (trim known.toList).map lowerAscii = trim ((trim asked.toList).map lowerAscii) := by
          rw [← letters, trim_map isBlank_lowerAscii]
      _ = (trim asked.toList).map lowerAscii := by rw [trim_map isBlank_lowerAscii, trim_trim]
      _ = known.toList.map lowerAscii := letters.symm
  have long : (trim known.toList).length = known.toList.length := by simpa using congrArg List.length unchanged
  exact trimmed_eq_self_iff.2 ((trim_sublist known.toList).eq_of_length long)

theorem same_trimmed (solid : trimmed known = known) (same : sameIgnoringCase known asked = true) :
    sameIgnoringCase known (trimmed asked) = true := by
  have letters := sameIgnoringCase_iff.1 same
  rw [sameIgnoringCase_iff, trimmed, String.toList_ofList]
  calc known.toList.map lowerAscii = (trim known.toList).map lowerAscii := by rw [trimmed_eq_self_iff.1 solid]
    _ = trim (asked.toList.map lowerAscii) := by rw [← letters, trim_map isBlank_lowerAscii]
    _ = (trim asked.toList).map lowerAscii := trim_map isBlank_lowerAscii asked.toList

/-! ## Answers -/

/-- All that a field is called in a language. -/
def wordings (f : Field) (language : String) : List String :=
  (f.readableName? language).toList ++ f.synonymsIn language

theorem answersTo_iff : f.answersTo language asked = true
    ↔ ∃ known ∈ f.wordings language, sameIgnoringCase known (trimmed asked) = true := by
  cases name : f.readableName? language <;> simp [answersTo, wordings, name]

theorem answersTo_of_mem (member : known ∈ f.wordings language) (solid : trimmed known = known)
    (same : sameIgnoringCase known asked = true) : f.answersTo language asked = true :=
  answersTo_iff.2 ⟨known, member, same_trimmed solid same⟩

/-- Where a field answers and one of its wordings has blanks around it, another wording is what answers. -/
theorem other_of_answersTo (padded : trimmed known ≠ known) (answers : f.answersTo language asked = true) :
    ∃ other ∈ f.wordings language, other ≠ known ∧ sameIgnoringCase other (trimmed asked) = true := by
  obtain ⟨other, member, same⟩ := answersTo_iff.1 answers
  exact ⟨other, member, fun here => padded (here ▸ trimmed_of_same same), same⟩

/-! ## Synonyms through edits -/

/-- A field after edits. -/
def edits (f : Field) (changes : List Edit) : Field := changes.foldl (fun f change => change.apply f) f

theorem synonymsIn_put (f : Field) (language other : String) (set : StringSet) :
    synonymsIn { f with synonyms := Dictionary.put other set f.synonyms } language
      = if language = other then set else f.synonymsIn language := by
  rw [synonymsIn, Dictionary.get?_put]
  split <;> rfl

theorem mem_synonymsIn_apply {change : Edit} (member : synonym ∈ f.synonymsIn language)
    (kept : change ≠ .noSynonym language synonym) : synonym ∈ (change.apply f).synonymsIn language := by
  cases change with
  | key isKey => exact member
  | readableName other name => exact member
  | newSynonym other added =>
      rw [Edit.apply, addSynonym, synonymsIn_put]
      split
      next here => exact StringSet.mem_insert.2 (.inr (here ▸ member))
      next => exact member
  | noSynonym other removed =>
      rw [Edit.apply, removeSynonym]
      split
      next => exact member
      next set found =>
          rw [synonymsIn_put]
          split
          next here =>
              subst here
              have inside : synonym ∈ set := by simpa [synonymsIn, found] using member
              exact StringSet.mem_remove_of_ne inside fun same => kept (same ▸ rfl)
          next => exact member

theorem mem_synonymsIn_edits {changes : List Edit} (member : synonym ∈ f.synonymsIn language)
    (kept : .noSynonym language synonym ∉ changes) : synonym ∈ (f.edits changes).synonymsIn language := by
  induction changes generalizing f with
  | nil => exact member
  | cons change changes ih =>
      obtain ⟨here, later⟩ := not_or.1 (mt List.mem_cons.2 kept)
      exact ih (mem_synonymsIn_apply member (Ne.symm here)) later

theorem mem_synonymsIn_addSynonym (f : Field) (language synonym : String) :
    synonym ∈ (f.addSynonym language synonym).2.synonymsIn language := by
  rw [addSynonym, synonymsIn_put, if_pos rfl]
  exact StringSet.mem_insert.2 (.inl rfl)

end Field

namespace Schema

/-! ## Lookups -/

/-- A lookup finds a field up to a certain one if some field up to that one answers. -/
theorem findByWording?_iff {s : Schema} {before later : List Field} {f : Field} {language asked : String}
    (here : s.fields = before ++ f :: later) :
    (∃ g ∈ before ++ [f], s.findByWording? language asked = some g ∧ g.answersTo language asked = true)
      ↔ ∃ g ∈ before ++ [f], g.answersTo language asked = true := by
  constructor
  · rintro ⟨g, member, _, answers⟩
    exact ⟨g, member, answers⟩
  · rintro ⟨g, member, answers⟩
    have found : ((before ++ [f]).find? (·.answersTo language asked)).isSome := by
      rw [List.find?_isSome]
      exact ⟨g, member, answers⟩
    obtain ⟨first, found⟩ := Option.isSome_iff_exists.1 found
    have whole : s.fields = (before ++ [f]) ++ later := by simp [here]
    have answered : first.answersTo language asked = true := by simpa using List.find?_some found
    refine ⟨first, List.mem_of_find?_eq_some found, ?_, answered⟩
    rw [findByWording?, whole, List.find?_append, found, Option.some_or]

/-- A field is found by its readable name, or an earlier field that answers to it, exactly if the name has no blanks around
    it, or a synonym or an earlier field answers instead of it; every field of an inferred schema has such a name in every
    language. A synonym is answered to in any case of ASCII letters from when it is added until it is removed, exactly if
    it has no blanks around it, or something else that the field is called answers instead of it. -/
theorem answers_to_trimmed_wordings (language : String) :
    (∀ (s : Schema) (before later : List Field) (f : Field) (name : String),
      s.fields = before ++ f :: later → f.readableName? language = some name →
        ((∃ g ∈ before ++ [f], s.findByWording? language name = some g ∧ g.answersTo language name = true)
          ↔ trimmed name = name
            ∨ (∃ synonym ∈ f.synonymsIn language, Field.sameIgnoringCase synonym (trimmed name) = true)
            ∨ ∃ g ∈ before, g.answersTo language name = true)) ∧
    (∀ settings lexicon d s, infer settings lexicon d = .ok s → ∀ f ∈ s.fields, language ∈ settings.languages →
      ∃ name, f.readableName? language = some name ∧ ∃ c ∈ name.toList, isBlank c = false) ∧
    ∀ (f : Field) (synonym : String) (changes : List Field.Edit), .noSynonym language synonym ∉ changes →
      ∀ asked, Field.sameIgnoringCase synonym asked = true →
        let g := (f.addSynonym language synonym).2.edits changes
        (g.answersTo language asked = true ↔ trimmed synonym = synonym
          ∨ ∃ other ∈ g.wordings language, other ≠ synonym ∧ Field.sameIgnoringCase other (trimmed asked) = true) := by
  refine ⟨?_, ?_, ?_⟩
  · intro s before later f name here named
    have own : name ∈ f.wordings language := by simp [Field.wordings, named]
    rw [findByWording?_iff here]
    constructor
    · rintro ⟨g, member, answers⟩
      rcases List.mem_append.1 member with earlier | last
      · exact .inr (.inr ⟨g, earlier, answers⟩)
      · obtain rfl := List.mem_singleton.1 last
        -- With a blank at an end the name itself answers to nothing, so another wording has done so.
        by_cases solid : trimmed name = name
        · exact .inl solid
        · obtain ⟨other, inside, apart, same⟩ := Field.other_of_answersTo solid answers
          have synonym : other ∈ g.synonymsIn language := by simpa [Field.wordings, named, apart] using inside
          exact .inr (.inl ⟨other, synonym, same⟩)
    · rintro (solid | ⟨synonym, inside, same⟩ | ⟨g, earlier, answers⟩)
      · exact ⟨f, by simp, Field.answersTo_of_mem own solid (by simp [Field.sameIgnoringCase])⟩
      · exact ⟨f, by simp, Field.answersTo_iff.2 ⟨synonym, List.mem_append_right _ inside, same⟩⟩
      · exact ⟨g, List.mem_append_left _ earlier, answers⟩
  · intro settings lexicon d s inferred f member inside
    obtain ⟨⟨_, covered⟩, rfl⟩ := infer_eq_ok_iff.1 inferred
    obtain ⟨⟨column, index⟩, entry, rfl⟩ := List.mem_map.1 member
    obtain ⟨w, described, names⟩ := covered column (List.fst_mem_of_mem_zipIdx entry)
    have wording : (fieldAt settings lexicon d (column, index)).readableNames = w.readableNames := by
      simp [fieldAt, described, Field.ofProfile]
    rw [Field.readableName?, wording]
    exact names language inside
  · intro f synonym changes kept asked same g
    have member : synonym ∈ g.wordings language :=
      List.mem_append_right _ (Field.mem_synonymsIn_edits (Field.mem_synonymsIn_addSynonym f language synonym) kept)
    constructor
    · intro answers
      by_cases solid : trimmed synonym = synonym
      · exact .inl solid
      · exact .inr (Field.other_of_answersTo solid answers)
    · rintro (solid | ⟨other, inside, _, same⟩)
      · exact Field.answersTo_of_mem member solid same
      · exact Field.answersTo_iff.2 ⟨other, inside, same⟩

/-- A department is found under its column's name, and it answers to a synonym in capitals while other edits take place. -/
theorem answers_to_trimmed_wordings_payments :
    ∃ s dept, infer {} (.ofColumns ["dept", "paid"] ["en"]) payments = .ok s ∧ s.fields.head? = some dept ∧
      s.findByWording? "en" "dept" = some dept ∧
      ((dept.addSynonym "en" "team").2.edits [.newSynonym "en" "unit", .key true, .noSynonym "en" "unit"]).answersTo
        "en" "TEAM" = true := by
  obtain ⟨lookups, named, synonyms⟩ := answers_to_trimmed_wordings "en"
  let entry := fieldAt {} (.ofColumns ["dept", "paid"] ["en"]) payments
  let s : Schema := { name := "payments", fields := [entry ("dept", 0), entry ("paid", 1)] }
  have inferred : infer {} (.ofColumns ["dept", "paid"] ["en"]) payments = .ok s := by decide +kernel
  obtain ⟨name, here, _⟩ := named {} (.ofColumns ["dept", "paid"] ["en"]) payments s inferred (entry ("dept", 0))
    List.mem_cons_self (by decide)
  obtain rfl : "dept" = name := Option.some.inj ((by decide +kernel : _ = some "dept").symm.trans here)
  refine ⟨s, entry ("dept", 0), inferred, rfl, ?_, ?_⟩
  · obtain ⟨g, member, found, _⟩ := (lookups s [] [entry ("paid", 1)] _ "dept" rfl here).2 (.inl (by decide))
    obtain rfl := List.mem_singleton.1 member
    exact found
  · exact (synonyms _ "team" _ (by decide) "TEAM" (by decide)).2 (.inl (by decide))

/-- Prices under a name that has been written with a blank in front of it. -/
def paddedPrices : Dataset := ⟨"prices", ⟨[" price"], [["1"]], by decide⟩⟩

/-- The field of an inferred schema is not found by its readable name, nor does it answer to a synonym that it has just
    been given, as both have a blank at one end. -/
theorem padded_wordings_unanswered :
    let lexicon : Lexicon := .ofColumns [" price"] ["en"]
    let price := fieldAt {} lexicon paddedPrices (" price", 0)
    ∃ s, infer {} lexicon paddedPrices = .ok s ∧ s.fields = [price] ∧ price.readableName? "en" = some " price" ∧
      s.findByWording? "en" " price" = none ∧
      (price.addSynonym "en" "cost ").2.answersTo "en" "cost " = false := by
  intro lexicon price
  exact ⟨{ name := "prices", fields := [price] }, by decide +kernel⟩

end Schema

end Datasheet
