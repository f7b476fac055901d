import Mathlib.Data.List.Infix
import Mathlib.Data.List.TakeWhile
import Datasheet.Proofs.Text.Folding
import Datasheet.Sql.Engine.Pattern
import Datasheet.Sql.Quoting

/-! # Patterns of values

The pattern of a value stands for the value itself, also where the value has signs that mean something in
patterns. With a wildcard at an end, or at both, it matches the texts that begin with the value, end with it or
have it somewhere, all without regard to the case of ASCII letters.
-/

namespace Datasheet.Sql

open Text

/-! ## Matching -/

theorem anySuffix_iff {p : List Char → Bool} {text : List Char} :
    anySuffix p text = true ↔ ∃ back, back <:+ text ∧ p back = true := by
  induction text with
  | nil => simp [anySuffix]
  | cons c text ih =>
      rw [anySuffix, Bool.or_eq_true, ih]
      constructor
      · rintro (here | ⟨back, suffix, later⟩)
        · exact ⟨c :: text, List.suffix_rfl, here⟩
        · exact ⟨back, List.suffix_cons_iff.2 (.inr suffix), later⟩
      · rintro ⟨back, suffix, holds⟩
        rcases List.suffix_cons_iff.1 suffix with rfl | suffix
        · exact .inl holds
        · exact .inr ⟨back, suffix, holds⟩

theorem Pattern.holds_exactly_append (cs : List Char) (parts : Pattern) (text : List Char) :
    Pattern.holds (cs.map .exactly ++ parts) text = true ↔
      ∃ back, text = cs ++ back ∧ Pattern.holds parts back = true := by
  induction cs generalizing text with
  | nil => simp
  | cons c cs ih =>
      cases text with
      | nil => simp [Pattern.holds]
      | cons d text =>
          rw [List.map_cons, List.cons_append, Pattern.holds, PatternPart.accepts, Bool.and_eq_true, beq_iff_eq, ih]
          · constructor
            · rintro ⟨rfl, back, rfl, holds⟩
              exact ⟨back, rfl, holds⟩
            · rintro ⟨back, same, holds⟩
              obtain ⟨rfl, rfl⟩ := List.cons.inj same
              exact ⟨rfl, back, rfl, holds⟩
          · simp

theorem Pattern.holds_exactly (cs text : List Char) : Pattern.holds (cs.map .exactly) text = true ↔ text = cs := by
  have known := Pattern.holds_exactly_append cs [] text
  rw [List.append_nil] at known
  rw [known]
  constructor
  · rintro ⟨back, rfl, empty⟩
    obtain rfl : back = [] := by simpa [Pattern.holds] using empty
    exact List.append_nil cs
  · rintro rfl
    exact ⟨[], (List.append_nil _).symm, rfl⟩

theorem Pattern.holds_anything (text : List Char) : Pattern.holds [.anything] text = true := by
  rw [Pattern.holds, anySuffix_iff]
  exact ⟨[], List.nil_suffix, rfl⟩

theorem Pattern.holds_startsWith (cs text : List Char) :
    Pattern.holds (cs.map .exactly ++ [.anything]) text = true ↔ cs <+: text := by
  rw [Pattern.holds_exactly_append]
  constructor
  · rintro ⟨back, rfl, _⟩
    exact List.prefix_append cs back
  · rintro ⟨back, rfl⟩
    exact ⟨back, rfl, Pattern.holds_anything back⟩

theorem Pattern.holds_endsWith (cs text : List Char) :
    Pattern.holds (.anything :: cs.map .exactly) text = true ↔ cs <:+ text := by
  rw [Pattern.holds, anySuffix_iff]
  constructor
  · rintro ⟨back, suffix, holds⟩
    exact (Pattern.holds_exactly cs back).1 holds ▸ suffix
  · exact fun suffix => ⟨cs, suffix, (Pattern.holds_exactly cs cs).2 rfl⟩

theorem Pattern.holds_contains (cs text : List Char) :
    Pattern.holds (.anything :: (cs.map .exactly ++ [.anything])) text = true ↔ cs <:+: text := by
  rw [Pattern.holds, anySuffix_iff]
  simp only [Pattern.holds_startsWith]
  rw [List.infix_iff_prefix_suffix]
  simp only [and_comm]

/-! ## Notation -/

/-- The pattern of a value is read as its characters. -/
theorem Pattern.ofLike?_escaped_append (cs rest : List Char) :
    Pattern.ofLike? (escaped cs ++ rest) = (Pattern.ofLike? rest).map (cs.map .exactly ++ ·) := by
  induction cs with
  | nil => simp [escaped]
  | cons c cs ih =>
      rw [escaped]
      split
      next =>
          rw [List.cons_append, List.cons_append, Pattern.ofLike?, ih, Option.map_map]
          rfl
      next plain =>
          simp only [hasPatternMeaning, Bool.or_eq_true, beq_iff_eq, not_or] at plain
          rw [List.cons_append, Pattern.ofLike?, ih, Option.map_map]
          · rfl
          all_goals simp_all

theorem map_escaped {f : Char → Char} (fixed : ∀ c, hasPatternMeaning (f c) = hasPatternMeaning c)
    (escape : f '\\' = '\\') (cs : List Char) : (escaped cs).map f = escaped (cs.map f) := by
  induction cs with
  | nil => rfl
  | cons c cs ih =>
      rw [List.map_cons, escaped, escaped, fixed]
      split
      next => rw [List.map_cons, List.map_cons, escape, ih]
      next => rw [List.map_cons, ih]

/-- A character as it is matched without regard to case. -/
def matched (c : Char) : Char := lowerAscii (seenChar c)

theorem toNat_seenChar (c : Char) :
    (seenChar c).toNat = if c.toNat = 0xFFFE ∨ c.toNat = 0xFFFF then 0xFFFD else c.toNat := by
  rw [seenChar]
  split <;> rfl

theorem hasPatternMeaning_iff {c : Char} :
    hasPatternMeaning c = true ↔ c.toNat = 92 ∨ c.toNat = 37 ∨ c.toNat = 95 := by
  have known (d : Char) : c = d ↔ c.toNat = d.toNat := ⟨fun same => same ▸ rfl, char_ext⟩
  simp only [hasPatternMeaning, Bool.or_eq_true, beq_iff_eq, known, or_assoc]
  rfl

theorem hasPatternMeaning_matched (c : Char) : hasPatternMeaning (matched c) = hasPatternMeaning c := by
  rw [Bool.eq_iff_iff, hasPatternMeaning_iff, hasPatternMeaning_iff, matched, toNat_lowerAscii, toNat_seenChar]
  grind

theorem matched_upperAscii (c : Char) : matched (upperAscii c) = matched c := by
  apply char_ext
  rw [matched, matched, toNat_lowerAscii, toNat_lowerAscii, toNat_seenChar, toNat_seenChar, toNat_upperAscii]
  grind

theorem matched_of_ascii {c : Char} (ascii : c.toNat < 128) : matched c = lowerAscii c := by
  rw [matched, seenChar, if_neg (by omega)]

theorem takeWhile_nulFree {cs : List Char} (clean : ∀ c ∈ cs, c.toNat ≠ 0) : cs.takeWhile (·.toNat != 0) = cs :=
  List.takeWhile_eq_self_iff.2 fun c member => bne_iff_ne.2 (clean c member)

theorem seenText_matched {s : String} (clean : ∀ c ∈ s.toList, c.toNat ≠ 0) :
    (seenText s).map lowerAscii = s.toList.map matched := by
  rw [seenText, takeWhile_nulFree clean, List.map_map]
  rfl

/-! ## Values with wildcards -/

theorem likeHolds_eq {pattern subject : String} (clean : ∀ c ∈ pattern.toList, c.toNat ≠ 0)
    (clean' : ∀ c ∈ subject.toList, c.toNat ≠ 0)
    {parts : Pattern} (read : Pattern.ofLike? (pattern.toList.map matched) = some parts) :
    likeHolds pattern subject = parts.holds (subject.toList.map matched) := by
  rw [likeHolds, seenText_matched clean, seenText_matched clean', read]

theorem map_matched_likePattern (value : String) :
    (likePattern value).toList.map matched = escaped (value.toList.map matched) := by
  rw [likePattern, String.toList_ofList]
  exact map_escaped hasPatternMeaning_matched (by decide) value.toList

theorem ofLike?_contains (value : String) :
    Pattern.ofLike? (("%" ++ likePattern value ++ "%").toList.map matched)
      = some (.anything :: ((value.toList.map matched).map .exactly ++ [.anything])) := by
  have text : ("%" ++ likePattern value ++ "%").toList.map matched
      = '%' :: (escaped (value.toList.map matched) ++ ['%']) := by
    simp only [String.toList_append, List.map_append, map_matched_likePattern]
    rfl
  rw [text, Pattern.ofLike?, Pattern.ofLike?_escaped_append]
  rfl

theorem ofLike?_startsWith (value : String) :
    Pattern.ofLike? ((likePattern value ++ "%").toList.map matched)
      = some ((value.toList.map matched).map .exactly ++ [.anything]) := by
  have text : (likePattern value ++ "%").toList.map matched = escaped (value.toList.map matched) ++ ['%'] := by
    simp only [String.toList_append, List.map_append, map_matched_likePattern]
    rfl
  rw [text, Pattern.ofLike?_escaped_append]
  rfl

theorem ofLike?_endsWith (value : String) :
    Pattern.ofLike? (("%" ++ likePattern value).toList.map matched)
      = some (.anything :: (value.toList.map matched).map .exactly) := by
  have text : ("%" ++ likePattern value).toList.map matched = '%' :: (escaped (value.toList.map matched) ++ []) := by
    simp only [String.toList_append, List.map_append, map_matched_likePattern, List.append_nil]
    rfl
  rw [text, Pattern.ofLike?, Pattern.ofLike?_escaped_append]
  simp [Pattern.ofLike?]

end Datasheet.Sql
