import Datasheet.Toml.Quoted
import Mathlib.Data.List.Basic
import Mathlib.Tactic.SplitIfs

/-! # Strings and their spellings

What may stand between the quotes of a string is told as a relation between the string and its text. Every text that
spells a string is read as that string, and each form in which strings are written spells them.
-/

namespace Datasheet.Toml

/-! ## Spellings -/

/-- `e` stands for a character behind a backslash, whatever comes after it, and does not begin as a joined line does. -/
structure IsEscape (c : Char) (e : List Char) : Prop where
  read : ∀ rest, readEscape? (e ++ rest) = some (c, rest)
  joinsNothing : ∀ rest, afterJoin? (e ++ rest) = none

/-- The text spells the string on one line between two quotes. -/
inductive SpellsLine (quote : Char) (hasEscapes : Bool) : List Char → List Char → Prop where
  | nil : SpellsLine quote hasEscapes [] []
  | char {c : Char} {s text : List Char} (fits : isLineChar c = true) (other : c ≠ quote)
      (plain : hasEscapes = true → c ≠ '\\') (later : SpellsLine quote hasEscapes s text) :
      SpellsLine quote hasEscapes (c :: s) (c :: text)
  | escape {c : Char} {e s text : List Char} (escapes : hasEscapes = true) (here : IsEscape c e)
      (later : SpellsLine quote hasEscapes s text) : SpellsLine quote hasEscapes (c :: s) ('\\' :: (e ++ text))

/-- The text spells the string between three quotes at each end, after `row` quotes of its own. -/
inductive SpellsLong (quote : Char) (hasEscapes : Bool) : Nat → List Char → List Char → Prop where
  | nil {row : Nat} : SpellsLong quote hasEscapes row [] []
  | quote {row : Nat} {s text : List Char} (room : row < 2) (later : SpellsLong quote hasEscapes (row + 1) s text) :
      SpellsLong quote hasEscapes row (quote :: s) (quote :: text)
  | char {row : Nat} {c : Char} {s text : List Char} (fits : isLineChar c = true) (other : c ≠ quote)
      (plain : hasEscapes = true → c ≠ '\\') (later : SpellsLong quote hasEscapes 0 s text) :
      SpellsLong quote hasEscapes row (c :: s) (c :: text)
  | lineBreak {row : Nat} {s text : List Char} (later : SpellsLong quote hasEscapes 0 s text) :
      SpellsLong quote hasEscapes row ('\n' :: s) ('\n' :: text)
  | escape {row : Nat} {c : Char} {e s text : List Char} (escapes : hasEscapes = true) (here : IsEscape c e)
      (later : SpellsLong quote hasEscapes 0 s text) :
      SpellsLong quote hasEscapes row (c :: s) ('\\' :: (e ++ text))

variable {quote : Char} {hasEscapes : Bool} {s text rest : List Char} {row fuel : Nat}

theorem SpellsLine.length_le (spelled : SpellsLine quote hasEscapes s text) : s.length ≤ text.length := by
  induction spelled with
  | nil => exact Nat.le_refl 0
  | char fits other plain later ih => exact Nat.succ_le_succ ih
  | escape escapes here later ih =>
      rw [List.length_cons, List.length_cons, List.length_append]
      omega

theorem SpellsLong.length_le (spelled : SpellsLong quote hasEscapes row s text) : s.length ≤ text.length := by
  induction spelled with
  | nil => exact Nat.le_refl 0
  | quote room later ih => exact Nat.succ_le_succ ih
  | char fits other plain later ih => exact Nat.succ_le_succ ih
  | lineBreak later ih => exact Nat.succ_le_succ ih
  | escape escapes here later ih =>
      rw [List.length_cons, List.length_cons, List.length_append]
      omega

/-! ## Reading spellings -/

/-- The two characters that enclose strings. -/
def IsQuote (quote : Char) : Prop := quote = '"' ∨ quote = '\''

theorem IsQuote.ne_backslash (kind : IsQuote quote) : '\\' ≠ quote := by
  rcases kind with rfl | rfl <;> decide

theorem IsQuote.ne_break (kind : IsQuote quote) : '\n' ≠ quote := by
  rcases kind with rfl | rfl <;> decide

theorem afterBreak?_of_ne {c : Char} (notBreak : c ≠ '\n') (notReturn : c ≠ '\r') (cs : List Char) :
    afterBreak? (c :: cs) = none := by
  unfold afterBreak?
  split
  · next here => exact absurd (List.cons.inj here).1 notBreak
  · next here => exact absurd (List.cons.inj here).1 notReturn
  · rfl

theorem ne_of_class {p : Char → Bool} {c other : Char} (inside : p c = true) (outside : p other = false) : c ≠ other := by
  rintro rfl
  exact Bool.false_ne_true (outside.symm.trans inside)

theorem afterBreak?_of_isLineChar {c : Char} (fits : isLineChar c = true) (cs : List Char) : afterBreak? (c :: cs) = none :=
  afterBreak?_of_ne (ne_of_class fits (by decide)) (ne_of_class fits (by decide)) cs

theorem no_escape {c : Char} (plain : hasEscapes = true → c ≠ '\\') : ¬(hasEscapes && c == '\\') = true := by
  intro both
  obtain ⟨escapes, backslash⟩ := Bool.and_eq_true_iff.1 both
  exact plain escapes (beq_iff_eq.1 backslash)

theorem readLineString_spelled (kind : IsQuote quote) (spelled : SpellsLine quote hasEscapes s text)
    (enough : s.length < fuel) : readLineString quote hasEscapes fuel (text ++ quote :: rest) = some (s, rest) := by
  induction spelled generalizing fuel with
  | nil =>
      obtain ⟨fuel, rfl⟩ := Nat.exists_eq_add_one.2 enough
      exact if_pos rfl
  | @char c s text fits other plain later ih =>
      obtain ⟨fuel, rfl⟩ := Nat.exists_eq_add_one.2 (Nat.zero_lt_of_lt enough)
      rw [List.cons_append, readLineString, if_neg other, if_neg (no_escape plain), if_pos fits,
        ih (Nat.lt_of_succ_lt_succ enough)]
      rfl
  | @escape c e s text escapes here later ih =>
      obtain ⟨fuel, rfl⟩ := Nat.exists_eq_add_one.2 (Nat.zero_lt_of_lt enough)
      rw [List.cons_append, readLineString, if_neg kind.ne_backslash, if_pos (by simp [escapes]), List.append_assoc,
        here.read]
      simp only [Option.bind_eq_bind, Option.bind_some, ih (Nat.lt_of_succ_lt_succ enough)]

/-- The row of quotes at the start of a spelling and its closing quotes. -/
def quotesAhead (quote : Char) (text : List Char) : Nat := (text.takeWhile (· == quote)).length

theorem quotesAhead_self (cs : List Char) : quotesAhead quote (quote :: cs) = quotesAhead quote cs + 1 := by
  simp [quotesAhead]

theorem quotesAhead_other {c : Char} (other : c ≠ quote) (cs : List Char) : quotesAhead quote (c :: cs) = 0 := by
  simp [quotesAhead, other]

theorem quotesAhead_closing (apart : rest.head? ≠ some quote) :
    quotesAhead quote (quote :: quote :: quote :: rest) = 3 := by
  have noQuotes : quotesAhead quote rest = 0 := by
    cases rest with
    | nil => rfl
    | cons c rest => exact quotesAhead_other (fun same => apart (congrArg some same)) rest
  rw [quotesAhead_self, quotesAhead_self, quotesAhead_self, noQuotes]

/-- Either the string ends in the row of quotes that begins here, or the row is too short to close it. -/
theorem quotesAhead_spelled (kind : IsQuote quote) (spelled : SpellsLong quote hasEscapes row s text) (few : row ≤ 2)
    (apart : rest.head? ≠ some quote) :
    let ahead := quotesAhead quote (text ++ quote :: quote :: quote :: rest)
    (s = List.replicate s.length quote ∧ text = s ∧ row + s.length ≤ 2 ∧ ahead = s.length + 3) ∨ row + ahead ≤ 2 := by
  induction spelled with
  | nil => exact .inl ⟨rfl, rfl, few, quotesAhead_closing apart⟩
  | @quote row s text room later ih =>
      simp only [List.cons_append, quotesAhead_self, List.length_cons, List.replicate_succ]
      rcases ih (Nat.succ_le_of_lt room) with ⟨quotes, same, short, ahead⟩ | short
      · exact .inl ⟨congrArg _ quotes, congrArg _ same, by omega, by omega⟩
      · exact .inr (by omega)
  | char fits other plain later ih => exact .inr (by rw [List.cons_append, quotesAhead_other other]; exact few)
  | lineBreak later ih => exact .inr (by rw [List.cons_append, quotesAhead_other kind.ne_break]; exact few)
  | escape escapes here later ih => exact .inr (by rw [List.cons_append, quotesAhead_other kind.ne_backslash]; exact few)

theorem readLongString_spelled (kind : IsQuote quote) (spelled : SpellsLong quote hasEscapes row s text) (few : row ≤ 2)
    (apart : rest.head? ≠ some quote) (enough : s.length < fuel) :
    readLongString quote hasEscapes fuel (text ++ quote :: quote :: quote :: rest) = some (s, rest) := by
  induction spelled generalizing fuel with
  | nil =>
      obtain ⟨fuel, rfl⟩ := Nat.exists_eq_add_one.2 enough
      have three : quotesAhead quote (quote :: quote :: quote :: rest) = 3 := quotesAhead_closing apart
      rw [quotesAhead] at three
      simp only [List.nil_append, readLongString, three]
      simp
  | @quote row s text room later ih =>
      obtain ⟨fuel, rfl⟩ := Nat.exists_eq_add_one.2 (Nat.zero_lt_of_lt enough)
      have ahead := quotesAhead_spelled kind (SpellsLong.quote room later) few apart
      rw [quotesAhead, List.cons_append] at ahead
      rw [List.cons_append, readLongString, if_pos rfl]
      rcases ahead with ⟨quotes, same, short, ahead⟩ | short
      -- the string ends in this row, and one round takes it together with the closing quotes
      · have all : min (s.length + 1 + 3 - 3) 2 = s.length + 1 := by
          rw [List.length_cons] at short
          omega
        cases same
        simp only [ahead, List.length_cons, all]
        rw [if_pos (by omega), ← List.length_cons, ← quotes]
        simp
      -- the row closes nothing, and one quote of it is taken
      · simp only
        rw [if_neg (by omega), ih (Nat.succ_le_of_lt room) (Nat.lt_of_succ_lt_succ enough)]
        rfl
  | @char row c s text fits other plain later ih =>
      obtain ⟨fuel, rfl⟩ := Nat.exists_eq_add_one.2 (Nat.zero_lt_of_lt enough)
      rw [List.cons_append, readLongString, if_neg other, if_neg (no_escape plain), afterBreak?_of_isLineChar fits]
      simp only [fits, if_true, ih (Nat.zero_le 2) (Nat.lt_of_succ_lt_succ enough)]
      rfl
  | @lineBreak row s text later ih =>
      obtain ⟨fuel, rfl⟩ := Nat.exists_eq_add_one.2 (Nat.zero_lt_of_lt enough)
      rw [List.cons_append, readLongString, if_neg kind.ne_break, if_neg (by simp)]
      simp only [afterBreak?, ih (Nat.zero_le 2) (Nat.lt_of_succ_lt_succ enough)]
      rfl
  | @escape row c e s text escapes here later ih =>
      obtain ⟨fuel, rfl⟩ := Nat.exists_eq_add_one.2 (Nat.zero_lt_of_lt enough)
      rw [List.cons_append, readLongString, if_neg kind.ne_backslash, if_pos (by simp [escapes]), List.append_assoc,
        here.joinsNothing, here.read]
      simp only [Option.bind_eq_bind, Option.bind_some, ih (Nat.zero_le 2) (Nat.lt_of_succ_lt_succ enough)]

/-- A string on one line is not taken for one on several: its text starts with no quote. -/
theorem readString?_line (kind : IsQuote quote) (spelled : SpellsLine quote (quote == '"') s text)
    (apart : rest.head? ≠ some quote) : readString? (quote :: (text ++ quote :: rest)) = some (s, rest) := by
  have read : readLineString quote (quote == '"') ((text ++ quote :: rest).length + 1) (text ++ quote :: rest) =
      some (s, rest) := by
    apply readLineString_spelled kind spelled
    have short := spelled.length_le
    rw [List.length_append]
    omega
  have one : readString? (quote :: (text ++ quote :: rest)) = readShort? (quote :: (text ++ quote :: rest)) := by
    have notThree : ∀ tail, text ++ quote :: rest ≠ quote :: quote :: tail := by
      intro tail three
      cases spelled with
      | nil =>
          have second : rest = quote :: tail := List.tail_eq_of_cons_eq three
          exact apart (second ▸ rfl)
      | char fits other plain later => exact other (List.cons.inj three).1
      | escape escapes here later => exact kind.ne_backslash (List.cons.inj three).1
    unfold readString?
    split
    · next tail same =>
        obtain ⟨rfl, three⟩ := List.cons.inj same
        exact absurd three (notThree tail)
    · next tail same =>
        obtain ⟨rfl, three⟩ := List.cons.inj same
        exact absurd three (notThree tail)
    · rfl
  rw [one]
  rcases kind with rfl | rfl
  · exact read
  · exact read

theorem afterBreak?_opening (kind : IsQuote quote) (spelled : SpellsLong quote hasEscapes 0 s text) (cs : List Char) :
    (afterBreak? (opening s ++ (text ++ quote :: cs))).getD (opening s ++ (text ++ quote :: cs)) = text ++ quote :: cs := by
  unfold opening
  split_ifs with breaks
  · rfl
  · have noBreak : afterBreak? (text ++ quote :: cs) = none := by
      cases spelled with
      | nil => rcases kind with rfl | rfl <;> rfl
      | quote room later => rcases kind with rfl | rfl <;> rfl
      | char fits other plain later => exact afterBreak?_of_isLineChar fits _
      | lineBreak later => exact absurd (by simp) breaks
      | escape escapes here later => rfl
    rw [List.nil_append, noBreak, Option.getD_none]

theorem readString?_long (kind : IsQuote quote) (spelled : SpellsLong quote (quote == '"') 0 s text)
    (apart : rest.head? ≠ some quote) :
    readString? (quote :: quote :: quote :: (opening s ++ (text ++ quote :: quote :: quote :: rest))) = some (s, rest) := by
  have read : readLongString quote (quote == '"') ((opening s ++ (text ++ quote :: quote :: quote :: rest)).length + 1)
      (text ++ quote :: quote :: quote :: rest) = some (s, rest) := by
    apply readLongString_spelled kind spelled (Nat.zero_le 2) apart
    have short := spelled.length_le
    rw [List.length_append, List.length_append]
    omega
  have opened := afterBreak?_opening kind spelled (quote :: quote :: rest)
  rcases kind with rfl | rfl
  · rw [readString?, opened]
    exact read
  · rw [readString?, opened]
    exact read

/-! ## Writing spellings -/

/-- A character that double quotes cannot hold, other than a quote, a backslash and those with a letter of their own. -/
def IsControl (n : Nat) : Prop := n < 0x20 ∨ n = 0x7F

instance (n : Nat) : Decidable (IsControl n) := inferInstanceAs (Decidable (_ ∨ _))

theorem mapM_hexDigit?_fourDigits :
    ∀ n < 0x80, IsControl n → (fourDigits n).mapM Json.hexDigit? = some [0, 0, n / 16, n % 16] := by decide

theorem length_fourDigits : ∀ n < 0x80, IsControl n → (fourDigits n).length = 4 := by decide

theorem readCode?_fourDigits {c : Char} (control : IsControl c.toNat) (rest : List Char) :
    readCode? 4 (fourDigits c.toNat ++ rest) = some (c, rest) := by
  have small : c.toNat < 0x80 := by
    rcases control with low | delete <;> omega
  have four := length_fourDigits c.toNat small control
  have code : 16 * (c.toNat / 16) + c.toNat % 16 = c.toNat := Nat.div_add_mod c.toNat 16
  have valid : c.toNat.isValidChar := c.valid
  rw [readCode?, List.take_left' four, List.drop_left' four, mapM_hexDigit?_fourDigits c.toNat small control]
  simp [code, valid]

theorem isEscape_letter {letter c : Char} (lettered : ([('\x08', 'b'), ('\t', 't'), ('\n', 'n'), ('\x0c', 'f'), ('\r', 'r'),
    ('"', '"'), ('\\', '\\')] : List (Char × Char)).lookup c = some letter) : IsEscape c [letter] := by
  obtain ⟨before, after, table, _⟩ := List.lookup_eq_some_iff.1 lettered
  have member : (c, letter) ∈ before ++ (c, letter) :: after := List.mem_append_right before List.mem_cons_self
  rw [← table] at member
  simp only [List.mem_cons, Prod.mk.injEq, List.not_mem_nil, or_false] at member
  rcases member with ⟨rfl, rfl⟩ | ⟨rfl, rfl⟩ | ⟨rfl, rfl⟩ | ⟨rfl, rfl⟩ | ⟨rfl, rfl⟩ | ⟨rfl, rfl⟩ | ⟨rfl, rfl⟩ <;>
    exact ⟨fun _ => rfl, fun _ => rfl⟩

theorem isEscape_code {c : Char} (control : IsControl c.toNat) : IsEscape c ('u' :: fourDigits c.toNat) :=
  ⟨readCode?_fourDigits control, fun _ => rfl⟩

theorem writeChar_cases (c : Char) :
    (writeChar c = [c] ∧ isLineChar c = true ∧ c ≠ '"' ∧ c ≠ '\\') ∨ ∃ e, writeChar c = '\\' :: e ∧ IsEscape c e := by
  unfold writeChar
  split
  · next letter lettered => exact .inr ⟨[letter], rfl, isEscape_letter lettered⟩
  · next absent =>
      split_ifs with control
      · exact .inr ⟨_, rfl, isEscape_code control⟩
      · refine .inl ⟨rfl, ?_, ?_, ?_⟩
        · simp [isLineChar]
          omega
        · rintro rfl
          cases absent
        · rintro rfl
          cases absent

theorem spellsLine_writeChar (s : List Char) : SpellsLine '"' true s (s.flatMap writeChar) := by
  induction s with
  | nil => exact .nil
  | cons c s ih =>
      rw [List.flatMap_cons]
      rcases writeChar_cases c with ⟨written, fits, other, plain⟩ | ⟨e, written, here⟩
      · exact written ▸ .char fits other (fun _ => plain) ih
      · exact written ▸ .escape rfl here ih

/-- Every third quote of a row is written as an escape, so no row closes the string. -/
theorem spellsLong_writeLong (s : List Char) (row : Nat) : SpellsLong '"' true row s (writeLong row s) := by
  induction s generalizing row with
  | nil => exact .nil
  | cons c s ih =>
      have single : SpellsLong '"' true row (c :: s) (writeChar c ++ writeLong 0 s) := by
        rcases writeChar_cases c with ⟨written, fits, other, plain⟩ | ⟨e, written, here⟩
        · exact written ▸ .char fits other (fun _ => plain) (ih 0)
        · exact written ▸ .escape rfl here (ih 0)
      rw [writeLong]
      split
      · next quote =>
          subst quote
          split
          · next room => exact .quote room (ih (row + 1))
          · exact single
      · split
        · next here => exact here ▸ .lineBreak (ih 0)
        · exact single

theorem spellsLine_self {s : List Char} (fits : ∀ c ∈ s, isLineChar c = true) (apart : '\'' ∉ s) :
    SpellsLine '\'' false s s := by
  induction s with
  | nil => exact .nil
  | cons c s ih =>
      obtain ⟨here, later⟩ := List.forall_mem_cons.1 fits
      obtain ⟨other, apart⟩ := not_or.1 (mt List.mem_cons.2 apart)
      exact .char here (Ne.symm other) (fun escapes => nomatch escapes) (ih later apart)

theorem le_longestRow (quote : Char) (row : Nat) (s : List Char) : row ≤ longestRow quote row s := by
  induction s generalizing row with
  | nil => exact Nat.le_refl row
  | cons c s ih =>
      rw [longestRow]
      split
      · exact Nat.le_of_succ_le (ih (row + 1))
      · exact Nat.le_max_left _ _

theorem spellsLong_self {s : List Char} (literal : ∀ c ∈ s, isLiteralChar c = true) {row : Nat}
    (short : longestRow '\'' row s ≤ 2) : SpellsLong '\'' false row s s := by
  induction s generalizing row with
  | nil => exact .nil
  | cons c s ih =>
      obtain ⟨here, later⟩ := List.forall_mem_cons.1 literal
      rw [longestRow] at short
      split at short
      · next quote =>
          subst quote
          exact .quote (Nat.le_trans (le_longestRow _ (row + 1) s) short) (ih later short)
      · next other =>
          have rest := ih later (Nat.le_trans (Nat.le_max_right _ _) short)
          by_cases solid : c = '\n'
          · exact solid ▸ .lineBreak rest
          · have fits : isLineChar c = true := by simpa [isLiteralChar, solid] using here
            exact .char fits other (fun escapes => nomatch escapes) rest

/-- A string is written without escapes only where nothing in it needs one. -/
theorem StringForm.of_cases (s : List Char) :
    StringForm.of s = plain ∨ StringForm.of s = long ∨
    (StringForm.of s = literal ∧ (∀ c ∈ s, isLineChar c = true) ∧ '\'' ∉ s) ∨
    (StringForm.of s = longLiteral ∧ (∀ c ∈ s, isLiteralChar c = true) ∧ longestRow '\'' 0 s ≤ 2) := by
  unfold StringForm.of
  simp only
  split
  · exact .inl rfl
  split
  · next holds =>
      simp only [Bool.and_eq_true, List.all_eq_true, Bool.not_eq_true', List.contains_eq_mem, decide_eq_false_iff_not] at holds
      obtain ⟨⟨literal, apart⟩, oneLine⟩ := holds
      refine .inr (.inr (.inl ⟨rfl, ?_, apart⟩))
      intro c member
      have solid : c ≠ '\n' := fun here => oneLine (here ▸ member)
      simpa [isLiteralChar, solid] using literal c member
  split
  · exact .inr (.inl rfl)
  split
  · next holds =>
      simp only [Bool.and_eq_true, List.all_eq_true, decide_eq_true_eq] at holds
      exact .inr (.inr (.inr ⟨rfl, holds.1, holds.2⟩))
  split
  · exact .inr (.inl rfl)
  · exact .inl rfl

/-- Every string is read back as it was, in front of anything that is no quote. -/
theorem readString?_writeString (s : List Char) {rest : List Char} (apart : ∀ quote, IsQuote quote → rest.head? ≠ some quote) :
    readString? (writeString s ++ rest) = some (s, rest) := by
  have double : IsQuote '"' := .inl rfl
  have single : IsQuote '\'' := .inr rfl
  unfold writeString
  rcases StringForm.of_cases s with form | form | ⟨form, fits, absent⟩ | ⟨form, literal, short⟩ <;> rw [form]
  · simpa using readString?_line double (spellsLine_writeChar s) (apart _ double)
  · simpa using readString?_long double (spellsLong_writeLong s 0) (apart _ double)
  · simpa using readString?_line single (spellsLine_self fits absent) (apart _ single)
  · simpa using readString?_long single (spellsLong_self literal short) (apart _ single)

end Datasheet.Toml
