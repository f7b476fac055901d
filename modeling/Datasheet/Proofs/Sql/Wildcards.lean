import Mathlib.Data.List.Infix
import Datasheet.Proofs.Sql.Testing

/-! # Wildcards in values

The condition of a filter for a part of a text finds the value as it is written, with any wildcards and escape signs
among its characters. Apart from the case of ASCII letters it tells all characters apart but U+FFFD, U+FFFE and U+FFFF,
which the engine's patterns take for one.
-/

namespace Datasheet

open Text Sql

/-! ## What patterns tell apart -/

theorem Sql.matched_lowerAscii (c : Char) : matched (lowerAscii c) = matched c := by
  apply char_ext
  rw [matched, matched, toNat_lowerAscii, toNat_lowerAscii, toNat_seenChar, toNat_seenChar, toNat_lowerAscii]
  grind

theorem Sql.lowerAscii_of_matched {c d : Char} (alike : matched c = matched d) :
    lowerAscii c = lowerAscii d ∨ seenChar c = seenChar d := by
  have codes := congrArg Char.toNat alike
  rw [matched, matched, toNat_lowerAscii, toNat_lowerAscii, toNat_seenChar, toNat_seenChar] at codes
  by_cases read : (seenChar c).toNat = (seenChar d).toNat
  · exact .inr (char_ext read)
  · left
    apply char_ext
    rw [toNat_seenChar, toNat_seenChar] at read
    rw [toNat_lowerAscii, toNat_lowerAscii]
    grind

namespace TextOperator

variable {op : TextOperator} {cell value : List Char}

/-- Texts related in their small letters are related in what is matched of them. -/
theorem relates_matched (part : op.AsksForPart) (related : op.Relates (cell.map lowerAscii) (value.map lowerAscii)) :
    op.Relates (cell.map matched) (value.map matched) := by
  have again (cs : List Char) : (cs.map lowerAscii).map matched = cs.map matched := by
    rw [List.map_map]
    exact List.map_congr_left fun c _ => matched_lowerAscii c
  rw [← again cell, ← again value]
  rcases part with rfl | rfl | rfl
  · exact List.IsInfix.map matched related
  · exact List.IsPrefix.map matched related
  · exact List.IsSuffix.map matched related

theorem map_lowerAscii_of_matched {part : List Char}
    (apart : ∀ c ∈ part, ∀ d ∈ value, seenChar c = seenChar d → c = d)
    (alike : value.map matched = part.map matched) : value.map lowerAscii = part.map lowerAscii := by
  induction part generalizing value with
  | nil => simpa using alike
  | cons c part ih =>
      cases value with
      | nil => exact absurd alike (by simp)
      | cons d value =>
          obtain ⟨first, rest⟩ := List.cons.inj alike
          have lowered : lowerAscii d = lowerAscii c := by
            rcases lowerAscii_of_matched first with same | same
            · exact same
            · rw [apart c List.mem_cons_self d List.mem_cons_self same.symm]
          have later := ih (fun c' member d' member' => apart c' (List.mem_cons_of_mem _ member) d'
            (List.mem_cons_of_mem _ member')) rest
          rw [List.map_cons, List.map_cons, lowered, later]

/-- They are related no further where no character of one is read as another one of the other. -/
theorem relates_matched_iff (part : op.AsksForPart)
    (apart : ∀ c ∈ cell, ∀ d ∈ value, seenChar c = seenChar d → c = d) :
    op.Relates (cell.map matched) (value.map matched) ↔ op.Relates (cell.map lowerAscii) (value.map lowerAscii) := by
  refine ⟨fun related => ?_, relates_matched part⟩
  have among {found : List Char} (inside : found ⊆ cell) (alike : value.map matched = found.map matched) :
      value.map lowerAscii = found.map lowerAscii :=
    map_lowerAscii_of_matched (fun c member => apart c (inside member)) alike
  rcases part with rfl | rfl | rfl
  · obtain ⟨found, inside, alike⟩ := List.infix_map_iff.1 related
    exact List.infix_map_iff.2 ⟨found, inside, among inside.subset alike⟩
  · obtain ⟨found, inside, alike⟩ := List.prefix_map_iff.1 related
    exact List.prefix_map_iff.2 ⟨found, inside, among inside.subset alike⟩
  · obtain ⟨found, inside, alike⟩ := List.suffix_map_iff.1 related
    exact List.suffix_map_iff.2 ⟨found, inside, among inside.subset alike⟩

end TextOperator

namespace Sql.Engine

variable {e : Engine} {b : QueryBuilder} {field value : String} {op : TextOperator}

/-! ## Conditions -/

/-- The text of a condition is read as the test it was made of. -/
theorem Checked.read_condition (checked : e.Checked) {f : Filter} (column : e.IsPlainColumn f.field)
    (clean : NulFree (QueryBuilder.literalOf f)) {test : Test} (single : b.tests f = [test]) :
    (lex (spell test.tokens)).bind Test.read? = some (test, []) := by
  have known : ∀ x ∈ test.operands, x.IsOf [f.field] [QueryBuilder.literalOf f] := by
    intro x member
    apply QueryBuilder.operands_tests (b := b)
    rw [single]
    simpa using member
  have reads := checked.reads column
  have plain := Test.forall_tokens Token.isFormal_isPlain fun x member => (known x member).isPlain
  have nulFree := Test.forall_tokens Token.isFormal_isNulFree fun x member =>
    (known x member).isNulFree (List.forall_mem_singleton.2 reads.nulFree) (List.forall_mem_singleton.2 clean)
  have readable : ∀ x ∈ test.operands, x.IsReadable := fun x member =>
    isReadable_of_reads (known x member) (List.forall_mem_singleton.2 reads)
  have whole : Test.read? (test.tokens ++ []) = some (test, []) := Test.read?_tokens readable (by simp [Breaks])
  rw [lex_spell plain nulFree, Option.bind_some]
  simpa using whole

theorem text_of_conditionTexts {texts : List String} (made : b.conditionTexts = .ok texts) {index : Nat} {f : Filter}
    (filter : b.filters[index]? = some f) {test : Test} (single : b.tests f = [test]) :
    texts[index]? = some (String.ofList (spell test.tokens)) := by
  obtain ⟨groups, tested, written⟩ := bind_eq_ok.1 made
  obtain ⟨_, rfl⟩ := QueryBuilder.filterTests_eq_ok.1 tested
  obtain rfl := Except.ok.inj written
  rw [List.getElem?_map, List.getElem?_map, filter, Option.map_some, Option.map_some, single]
  rfl

/-- Each condition of a filter for a part of a text is read by the engine as the test that was meant. Whether or not the
    builder regards case, a cell without NUL passes it exactly if it has the value in the place that the filter tells,
    in any case of ASCII letters and as far as patterns tell characters apart. So no cell fails it that has the value
    with its ASCII letters folded, and no other cell passes it unless a character of the cell is read as a different
    one of the value: wildcards and escape signs have no meaning. -/
theorem values_match_literally (e : Engine) (b : QueryBuilder) (texts : List String) (index : Nat) (field value : String)
    (op : TextOperator) (connected : e.connect = .ok true) (column : e.IsPlainColumn field)
    (made : b.conditionTexts = .ok texts) (filter : b.filters[index]? = some ⟨field, .text op, value⟩)
    (part : op.AsksForPart) (clean : NulFree value) (short : IsShort ⟨field, .text op, value⟩) :
    ∃ text test, texts[index]? = some text ∧ (lex text.toList).bind Test.read? = some (test, [])
      ∧ ∀ row, NulFree (e.cell field row) → ∃ holds, test.holds e.table row = .ok holds
        ∧ (holds = true ↔ op.Relates ((e.cell field row).toList.map matched) (value.toList.map matched))
        ∧ (op.Relates ((e.cell field row).toList.map lowerAscii) (value.toList.map lowerAscii) → holds = true)
        ∧ ((∀ c ∈ (e.cell field row).toList, ∀ d ∈ value.toList, seenChar c = seenChar d → c = d) →
          (holds = true ↔ op.Relates ((e.cell field row).toList.map lowerAscii) (value.toList.map lowerAscii))) := by
  have checked := checked_of_connect connected
  have single : b.tests ⟨field, .text op, value⟩ = [b.textTest field value op] := rfl
  have written := text_of_conditionTexts made filter single
  have read := checked.read_condition column (QueryBuilder.nulFree_literalOf clean) single
  refine ⟨_, b.textTest field value op, written, by rwa [String.toList_ofList], fun row cell => ?_⟩
  have told := checked.holds_part b column cell clean part short
  refine ⟨_, told, decide_eq_true_iff, ?_, ?_⟩
  · intro related
    rw [decide_eq_true_eq]
    exact TextOperator.relates_matched part related
  · intro apart
    rw [decide_eq_true_eq]
    exact TextOperator.relates_matched_iff part apart

/-- Notes with percent signs, underscores and backslashes, and with two characters that are not for interchange. -/
def notes : Engine where
  tableName := "notes"
  dataset := ⟨"notes", ⟨["note"], [["50%_\\ off"], ["50 percent off"], ["a\uFFFD"], ["a\uFFFF"]], by decide⟩⟩

/-- A value with all three signs is found where it stands, and nowhere else. -/
theorem values_match_literally_notes :
    let b : QueryBuilder := { table := "notes", fields := ["note"], filters := [⟨"note", .text .contains, "%_\\ OFF"⟩] }
    let text := "UPPER(note) LIKE UPPER('%\\%\\_\\\\ OFF%') ESCAPE '\\'"
    b.conditionTexts = .ok [text]
      ∧ ∃ test, (lex text.toList).bind Test.read? = some (test, [])
        ∧ test.holds notes.table ⟨1, ["50%_\\ off"]⟩ = .ok true
        ∧ test.holds notes.table ⟨2, ["50 percent off"]⟩ = .ok false := by
  intro b text
  have made : b.conditionTexts = .ok [text] := by decide +kernel
  obtain ⟨_, test, written, read, told⟩ := values_match_literally notes b [text] 0 "note" "%_\\ OFF" .contains rfl
    (by decide) made rfl (.inl rfl) (by decide) (by decide)
  obtain rfl := Option.some.inj written
  refine ⟨made, test, read, ?_, ?_⟩
  · obtain ⟨holds, here, _, found, _⟩ := told ⟨1, ["50%_\\ off"]⟩ (by decide)
    rw [here, found (by decide)]
  · obtain ⟨holds, there, iff, _⟩ := told ⟨2, ["50 percent off"]⟩ (by decide)
    cases holds with
    | false => exact there
    | true => exact absurd (iff.1 rfl) (by decide)

/-- A note is answered that has another character than the value asked for, because the engine reads the two alike. -/
theorem notes_confused :
    let s : Session Unit Bool := ⟨(), none, []⟩
    let b : QueryBuilder := { table := "notes", fields := ["note"], filters := [⟨"note", .text .contains, "\uFFFD"⟩] }
    (s.ask notes.backend b .all).1.map (·.rows) = .ok [["a\uFFFD"], ["a\uFFFF"]]
      ∧ ¬TextOperator.contains.Relates ("a\uFFFF".toList.map lowerAscii) ("\uFFFD".toList.map lowerAscii) := by
  decide +kernel

end Sql.Engine

end Datasheet
