import Mathlib.Data.List.TakeDrop
import Datasheet.Sql.Lexer

/-! # Reading spelled tokens

The engine reads the tokens of a spelled text back one by one, as long as no token holds a NUL. A NUL ends the
text that the engine sees inside of a quote that is then never closed, and the text is refused.
-/

namespace Datasheet.Sql

/-- The text has no NUL. -/
def NulFree (s : String) : Prop := ∀ c ∈ s.toList, c.toNat ≠ 0

-- Found by type, the instance would be the one for finite types, which tries every character there is.
instance (s : String) : Decidable (NulFree s) := List.decidableBAll (fun c : Char => c.toNat ≠ 0) s.toList

/-- What the engine sees of a text. -/
def seen (text : List Char) : List Char := text.takeWhile (·.toNat != 0)

theorem seen_append {front : List Char} (clean : ∀ c ∈ front, c.toNat ≠ 0) (back : List Char) :
    seen (front ++ back) = front ++ seen back :=
  List.takeWhile_append_of_pos fun c member => bne_iff_ne.2 (clean c member)

theorem seen_cons {c : Char} (clean : c.toNat ≠ 0) (rest : List Char) : seen (c :: rest) = c :: seen rest :=
  List.takeWhile_cons_of_pos (bne_iff_ne.2 clean)

/-- A text with a NUL is cut at it, whatever follows the text. -/
theorem seen_append_of_nul {front : List Char} (nul : ¬∀ c ∈ front, c.toNat ≠ 0) (back : List Char) :
    seen (front ++ back) = seen front := by
  induction front with
  | nil => simp at nul
  | cons c front ih =>
      by_cases clean : c.toNat = 0
      · simp [seen, clean]
      · have later : ¬∀ d ∈ front, d.toNat ≠ 0 := fun all => nul (by simpa [clean] using all)
        rw [List.cons_append, seen_cons clean, seen_cons clean, ih later]

namespace Token

/-- A word of the token is a plain one. -/
def IsPlain : Token → Prop
  | word text => isPlainWord text.toList = true
  | _ => True

/-- No NUL stands between the token's quotes. -/
def IsNulFree : Token → Prop
  | quoted name => NulFree name
  | literal value => NulFree value
  | _ => True

end Token

/-! ## Quotes -/

theorem readQuoted_cons {quote c : Char} (other : c ≠ quote) (rest : List Char) :
    readQuoted quote (c :: rest) = (readQuoted quote rest).map fun (text, after) => (c :: text, after) := by
  cases rest with
  | nil => simp [readQuoted, other]
  | cons d rest => rw [readQuoted, if_neg other]

theorem readQuoted_doubled (quote : Char) (cs : List Char) {after : List Char} (closed : after.head? ≠ some quote) :
    readQuoted quote (doubled quote cs ++ quote :: after) = some (cs, after) := by
  induction cs with
  | nil =>
      cases after with
      | nil => simp [doubled, readQuoted]
      | cons d after =>
          have different : d ≠ quote := fun same => closed (by simp [same])
          simp [doubled, readQuoted, different]
  | cons c cs ih =>
      by_cases same : c = quote
      · subst same
        simp [doubled, readQuoted, ih]
      · rw [doubled, if_neg same, List.cons_append, readQuoted_cons same, ih]
        rfl

theorem readQuoted_unclosed (quote : Char) (cs : List Char) : readQuoted quote (doubled quote cs) = none := by
  induction cs with
  | nil => rfl
  | cons c cs ih =>
      by_cases same : c = quote
      · subst same
        simp [doubled, readQuoted, ih]
      · rw [doubled, if_neg same, readQuoted_cons same, ih]
        rfl

theorem nul_mem_doubled {quote : Char} {cs : List Char} : (∀ c ∈ doubled quote cs, c.toNat ≠ 0) ↔
    ∀ c ∈ cs, c.toNat ≠ 0 := by
  induction cs with
  | nil => simp [doubled]
  | cons c cs ih =>
      by_cases same : c = quote
      · subst same
        simp [doubled, ih]
      · simp [doubled, same, ih]

theorem seen_doubled {quote : Char} (clean : quote.toNat ≠ 0) (cs : List Char) :
    seen (doubled quote cs) = doubled quote (seen cs) := by
  induction cs with
  | nil => rfl
  | cons c cs ih =>
      by_cases same : c = quote
      · subst same
        rw [doubled, if_pos rfl, seen_cons clean, seen_cons clean, seen_cons clean, ih, doubled, if_pos rfl]
      · by_cases nul : c.toNat = 0
        · simp [doubled, same, seen, nul]
        · rw [doubled, if_neg same, seen_cons nul, seen_cons nul, ih, doubled, if_neg same]

theorem enclosed_append_nulFree {quote : Char} (clean : quote.toNat ≠ 0) {cs : List Char}
    (nulFree : ∀ c ∈ cs, c.toNat ≠ 0) : ∀ c ∈ enclosed quote cs, c.toNat ≠ 0 := by
  intro c member
  simp only [enclosed, List.mem_cons, List.mem_append, List.not_mem_nil, or_false] at member
  rcases member with rfl | member | rfl
  · exact clean
  · exact nul_mem_doubled.2 nulFree c member
  · exact clean

theorem seen_enclosed_of_nul {quote : Char} (clean : quote.toNat ≠ 0) {cs : List Char}
    (nul : ¬∀ c ∈ cs, c.toNat ≠ 0) (after : List Char) :
    seen (enclosed quote cs ++ after) = quote :: doubled quote (seen cs) := by
  have inside : ¬∀ c ∈ doubled quote cs, c.toNat ≠ 0 := fun all => nul (nul_mem_doubled.1 all)
  rw [enclosed, List.cons_append, seen_cons clean, List.append_assoc, seen_append_of_nul inside, seen_doubled clean]

/-! ## Tokens -/

/-- What can stand after a word, a name, a number or a comparison in a spelled text. -/
def Ends (after : List Char) : Prop := ∀ c ∈ after.head?, c = ' ' ∨ c = ')' ∨ c = ',' ∨ c = '('

theorem Ends.head_ne {after : List Char} (ends : Ends after) {c : Char}
    (other : c ≠ ' ' ∧ c ≠ ')' ∧ c ≠ ',' ∧ c ≠ '(') : after.head? ≠ some c := by
  intro head
  rcases ends c head with h | h | h | h
  · exact other.1 h
  · exact other.2.1 h
  · exact other.2.2.1 h
  · exact other.2.2.2 h

theorem span_append {p : Char → Bool} {front after : List Char} (all : ∀ c ∈ front, p c = true)
    (ends : Ends after) (stops : p ' ' = false ∧ p ')' = false ∧ p ',' = false ∧ p '(' = false) :
    (front ++ after).span p = (front, after) := by
  have stop : after.takeWhile p = [] ∧ after.dropWhile p = after := by
    cases after with
    | nil => exact ⟨rfl, rfl⟩
    | cons c after =>
        have refused : p c = false := by
          rcases ends c rfl with rfl | rfl | rfl | rfl
          · exact stops.1
          · exact stops.2.1
          · exact stops.2.2.1
          · exact stops.2.2.2
        simp [refused]
  rw [List.span_eq_takeWhile_dropWhile, List.takeWhile_append_of_pos all, List.dropWhile_append_of_pos all,
    stop.1, stop.2, List.append_nil]

theorem readToken_word {c : Char} {cs after : List Char} (plain : isPlainWord (c :: cs) = true) (ends : Ends after) :
    readToken (c :: cs ++ after) = some (.word (String.ofList (c :: cs)), after) := by
  obtain ⟨starts, continues⟩ := Bool.and_eq_true_iff.1 plain
  have name : c ≠ '"' := by rintro rfl; exact absurd starts (by decide)
  have value : c ≠ '\'' := by rintro rfl; exact absurd starts (by decide)
  have opens : opensWord c = true := by simp [opensWord, starts]
  have goesOn : ∀ d ∈ cs, extendsWord d = true := by
    intro d member
    simp [extendsWord, List.all_eq_true.1 continues d member]
  have rest := span_append (p := extendsWord) goesOn ends (by decide)
  have noBytes : after.head? ≠ some '\'' := ends.head_ne (by decide)
  rw [List.cons_append, readToken, if_neg name, if_neg value, if_pos opens]
  simp only [rest]
  simp [noBytes]

theorem isAlpha_iff {c : Char} :
    c.isAlpha = true ↔ 65 ≤ c.toNat ∧ c.toNat ≤ 90 ∨ 97 ≤ c.toNat ∧ c.toNat ≤ 122 := by
  have upper : c.isUpper = true ↔ 65 ≤ c.toNat ∧ c.toNat ≤ 90 := decide_eq_true_iff
  have lower : c.isLower = true ↔ 97 ≤ c.toNat ∧ c.toNat ≤ 122 := by
    change (decide ('a'.val ≤ c.val) && decide (c.val ≤ 'z'.val)) = true ↔ _
    rw [Bool.and_eq_true, decide_eq_true_eq, decide_eq_true_eq]
    rfl
  rw [← upper, ← lower]
  exact Bool.or_eq_true_iff

theorem readToken_number (n : Nat) {after : List Char} (ends : Ends after) :
    readToken (Nat.toDigits 10 n ++ after) = some (.number n, after) := by
  have digits : ∀ c ∈ Nat.toDigits 10 n, c.isDigit = true :=
    fun c member => Nat.isDigit_of_mem_toDigits (by decide) (by decide) member
  have value := Decimal.digitsValue_toDigits n
  cases h : Nat.toDigits 10 n with
  | nil => exact absurd h Nat.toDigits_ne_nil
  | cons c cs =>
      rw [h] at digits value
      have digit : c.isDigit = true := digits c List.mem_cons_self
      have name : c ≠ '"' := by rintro rfl; exact absurd digit (by decide)
      have text : c ≠ '\'' := by rintro rfl; exact absurd digit (by decide)
      have noWord : opensWord c = false := by
        have range : 48 ≤ c.toNat ∧ c.toNat ≤ 57 := by
          simpa [Char.isDigit, UInt32.le_iff_toNat_le] using digit
        have noLetter : c.isAlpha = false := by
          rw [← Bool.not_eq_true, isAlpha_iff]
          omega
        have noLine : c ≠ '_' := by rintro rfl; exact absurd digit (by decide)
        have noHigh : ¬0x80 ≤ c.toNat := by omega
        simp [opensWord, startsWord, noLetter, noLine, noHigh]
      have rest := span_append (p := Char.isDigit) (fun d member => digits d (List.mem_cons_of_mem _ member)) ends
        (by decide)
      have stops : (after.head?.any fun d => extendsWord d || d == '.') = false := by
        cases after with
        | nil => rfl
        | cons d after =>
            rcases ends d rfl with rfl | rfl | rfl | rfl <;> rfl
      rw [List.cons_append, readToken, if_neg name, if_neg text]
      simp only [rest]
      simp [noWord, digit, stops, value]

theorem readToken_sign {s : Sign} {after : List Char} (ends : Ends after ∨ s = .opening ∨ s = .comma) :
    readToken (s.spelling ++ after) = some (.sign s, after) := by
  cases s with
  | opening => rfl
  | comma => rfl
  | star => rfl
  | closing => rfl
  | notEqual => rfl
  | lessOrEqual => rfl
  | greaterOrEqual => rfl
  | equal =>
      cases after with
      | nil => rfl
      | cons c after => rcases ends.resolve_right (by simp) c rfl with rfl | rfl | rfl | rfl <;> rfl
  | less =>
      cases after with
      | nil => rfl
      | cons c after => rcases ends.resolve_right (by simp) c rfl with rfl | rfl | rfl | rfl <;> rfl
  | greater =>
      cases after with
      | nil => rfl
      | cons c after => rcases ends.resolve_right (by simp) c rfl with rfl | rfl | rfl | rfl <;> rfl

/-- A spelled token is read, whatever can follow it in a spelled text. -/
theorem readToken_spelling {t : Token} {after : List Char} (plain : t.IsPlain)
    (ends : Ends after ∨ t = .sign .opening ∨ t = .sign .comma) :
    readToken (t.spelling ++ after) = some (t, after) := by
  cases t with
  | word text =>
      rw [Token.IsPlain] at plain
      have ends := ends.resolve_right (by simp)
      cases h : text.toList with
      | nil => simp [h, isPlainWord] at plain
      | cons c cs =>
          rw [h] at plain
          rw [Token.spelling, h, readToken_word plain ends, ← h, String.ofList_toList]
  | quoted name =>
      have closed := (ends.resolve_right (by simp)).head_ne (c := '"') (by decide)
      rw [Token.spelling, enclosed, List.cons_append, List.append_assoc, readToken, if_pos rfl]
      simp [readQuoted_doubled _ _ closed]
  | literal value =>
      have closed := (ends.resolve_right (by simp)).head_ne (c := '\'') (by decide)
      rw [Token.spelling, enclosed, List.cons_append, List.append_assoc, readToken, if_neg (by decide), if_pos rfl]
      simp [readQuoted_doubled _ _ closed]
  | number n => exact readToken_number n (ends.resolve_right (by simp))
  | sign s => exact readToken_sign (by simpa using ends)

/-! ## Rows of tokens -/

theorem isGap_eq_false {c : Char} (solid : startsWord c = true ∨ c.isDigit = true) : isGap c = false := by
  by_contra gap
  have solid : (startsWord c || c.isDigit) = true := Bool.or_eq_true_iff.2 solid
  simp only [isGap, Bool.not_eq_false, Bool.or_eq_true, beq_iff_eq] at gap
  rcases gap with (((rfl | rfl) | rfl) | rfl) | feed
  · exact absurd solid (by decide)
  · exact absurd solid (by decide)
  · exact absurd solid (by decide)
  · exact absurd solid (by decide)
  · have feed : c = '\x0c' := Char.ext (UInt32.toNat_inj.1 feed)
    subst feed
    exact absurd solid (by decide)

theorem isGap_of_spelling {t : Token} (plain : t.IsPlain) :
    ∃ c cs, t.spelling = c :: cs ∧ isGap c = false := by
  cases t with
  | word text =>
      rw [Token.IsPlain] at plain
      cases h : text.toList with
      | nil => simp [h, isPlainWord] at plain
      | cons c cs =>
          rw [h] at plain
          exact ⟨c, cs, by rw [Token.spelling, h], isGap_eq_false (.inl (Bool.and_eq_true_iff.1 plain).1)⟩
  | quoted name => exact ⟨'"', _, rfl, by decide⟩
  | literal value => exact ⟨'\'', _, rfl, by decide⟩
  | number n =>
      cases h : Nat.toDigits 10 n with
      | nil => exact absurd h Nat.toDigits_ne_nil
      | cons c cs =>
          have digit : c.isDigit = true :=
            Nat.isDigit_of_mem_toDigits (by decide) (by decide) (h ▸ List.mem_cons_self)
          exact ⟨c, cs, h, isGap_eq_false (.inr digit)⟩
  | sign s => cases s <;> exact ⟨_, _, rfl, by decide⟩

/-- What stands after a token in a spelled row. -/
def following (t : Token) : List Token → List Char
  | [] => []
  | u :: rest => if t.apart u then ' ' :: spell (u :: rest) else spell (u :: rest)

theorem spell_cons (t : Token) (rest : List Token) : spell (t :: rest) = t.spelling ++ following t rest := by
  cases rest with
  | nil => simp [spell, following]
  | cons u rest => rfl

theorem ends_following {t : Token} {rest : List Token} :
    Ends (seen (following t rest)) ∨ t = .sign .opening ∨ t = .sign .comma := by
  by_cases safe : t = .sign .opening ∨ t = .sign .comma
  · exact .inr safe
  · left
    obtain ⟨notOpening, notComma⟩ := not_or.1 safe
    cases rest with
    | nil => simp [following, seen, Ends]
    | cons u rest =>
        rw [following]
        by_cases blank : t.apart u = true
        · rw [if_pos blank, seen_cons (by decide)]
          intro c head
          exact .inl (Option.some.inj head).symm
        · rw [if_neg blank, spell_cons]
          have kind : u = .sign .closing ∨ u = .sign .comma ∨ u = .sign .opening := by
            simp only [Bool.not_eq_true] at blank
            unfold Token.apart at blank
            split at blank <;> simp_all
          rcases kind with rfl | rfl | rfl
          · rw [Token.spelling, Sign.spelling, List.singleton_append, seen_cons (by decide)]
            intro c head
            exact .inr (.inl (Option.some.inj head).symm)
          · rw [Token.spelling, Sign.spelling, List.singleton_append, seen_cons (by decide)]
            intro c head
            exact .inr (.inr (.inl (Option.some.inj head).symm))
          · rw [Token.spelling, Sign.spelling, List.singleton_append, seen_cons (by decide)]
            intro c head
            exact .inr (.inr (.inr (Option.some.inj head).symm))

theorem lexWith_gap (fuel : Nat) (rest : List Char) : lexWith (fuel + 1) (' ' :: rest) = lexWith fuel rest := rfl

/-- A token at the start of a text is read, and then the rest. -/
theorem lexWith_spelling {t : Token} {after : List Char} (fuel : Nat) (plain : t.IsPlain)
    (ends : Ends after ∨ t = .sign .opening ∨ t = .sign .comma) :
    lexWith (fuel + 1) (t.spelling ++ after) = (lexWith fuel after).map (t :: ·) := by
  obtain ⟨c, cs, spelled, solid⟩ := isGap_of_spelling plain
  have read := readToken_spelling plain ends
  rw [spelled, List.cons_append] at read ⊢
  rw [lexWith, if_neg (by simp [solid]), read]
  cases h : lexWith fuel after <;> simp [h]

theorem spelling_nulFree {t : Token} (plain : t.IsPlain) (nulFree : t.IsNulFree) :
    ∀ c ∈ t.spelling, c.toNat ≠ 0 := by
  cases t with
  | word text =>
      intro c member nul
      have zero : c = Char.ofNat 0 := Char.ext (UInt32.toNat_inj.1 nul)
      subst zero
      rw [Token.IsPlain] at plain
      rw [Token.spelling] at member
      cases h : text.toList with
      | nil => simp [h] at member
      | cons d ds =>
          rw [h] at plain member
          obtain ⟨starts, continues⟩ := Bool.and_eq_true_iff.1 plain
          rcases List.mem_cons.1 member with same | member
          · rw [← same] at starts
            exact absurd starts (by decide)
          · exact absurd (List.all_eq_true.1 continues _ member) (by decide)
  | quoted name => exact enclosed_append_nulFree (by decide) nulFree
  | literal value => exact enclosed_append_nulFree (by decide) nulFree
  | number n =>
      intro c member nul
      have digit : c.isDigit = true := Nat.isDigit_of_mem_toDigits (by decide) (by decide) member
      have zero : c = Char.ofNat 0 := Char.ext (UInt32.toNat_inj.1 nul)
      subst zero
      exact absurd digit (by decide)
  | sign s =>
      have all : s.spelling.all (·.toNat != 0) = true := by cases s <;> decide
      intro c member
      exact bne_iff_ne.1 (List.all_eq_true.1 all c member)

/-- A token with a NUL between its quotes makes the text unreadable. -/
theorem lexWith_of_nul {t : Token} (nul : ¬t.IsNulFree) (fuel : Nat) (after : List Char) :
    lexWith fuel (seen (t.spelling ++ after)) = none := by
  have unclosed (quote : Char) (isQuote : quote = '"' ∨ quote = '\'') (cs : List Char) :
      lexWith fuel (quote :: doubled quote cs) = none := by
    cases fuel with
    | zero => rfl
    | succ fuel => rcases isQuote with rfl | rfl <;> simp [lexWith, isGap, readToken, readQuoted_unclosed]
  cases t with
  | word | number | sign => exact absurd trivial nul
  | quoted name =>
      rw [Token.spelling, seen_enclosed_of_nul (by decide) nul]
      exact unclosed _ (.inl rfl) _
  | literal value =>
      rw [Token.spelling, seen_enclosed_of_nul (by decide) nul]
      exact unclosed _ (.inr rfl) _

theorem lexWith_following {t : Token} {rest : List Token} {fuel : Nat} {result : Option (List Token)}
    (enough : (seen (following t rest)).length ≤ fuel)
    (later : ∀ fuel, (seen (spell rest)).length ≤ fuel → lexWith fuel (seen (spell rest)) = result) :
    lexWith fuel (seen (following t rest)) = result := by
  cases rest with
  | nil => exact later fuel enough
  | cons u rest =>
      rw [following] at enough ⊢
      by_cases blank : t.apart u = true
      · rw [if_pos blank, seen_cons (by decide)] at enough ⊢
        cases fuel with
        | zero => simp at enough
        | succ fuel => exact later fuel (Nat.le_of_succ_le_succ enough)
      · rw [if_neg blank] at enough ⊢
        exact later fuel enough

theorem seen_spell_cons {t : Token} (plain : t.IsPlain) (nulFree : t.IsNulFree) (rest : List Token) :
    seen (spell (t :: rest)) = t.spelling ++ seen (following t rest) := by
  rw [spell_cons, seen_append (spelling_nulFree plain nulFree)]

theorem length_following_le {t : Token} (plain : t.IsPlain) (nulFree : t.IsNulFree) {rest : List Token} {fuel : Nat}
    (enough : (seen (spell (t :: rest))).length ≤ fuel + 1) : (seen (following t rest)).length ≤ fuel := by
  obtain ⟨c, cs, spelled, _⟩ := isGap_of_spelling plain
  rw [seen_spell_cons plain nulFree, spelled, List.length_append, List.length_cons] at enough
  omega

theorem lexWith_spell {tokens : List Token} (plain : ∀ t ∈ tokens, t.IsPlain) (nulFree : ∀ t ∈ tokens, t.IsNulFree)
    (fuel : Nat) (enough : (seen (spell tokens)).length ≤ fuel) : lexWith fuel (seen (spell tokens)) = some tokens := by
  induction tokens generalizing fuel with
  | nil => cases fuel <;> rfl
  | cons t rest ih =>
      have plain_t := plain t List.mem_cons_self
      have nulFree_t := nulFree t List.mem_cons_self
      have later := ih (fun u member => plain u (List.mem_cons_of_mem _ member))
        fun u member => nulFree u (List.mem_cons_of_mem _ member)
      cases fuel with
      | zero =>
          -- A token is spelled with at least one character, so there is fuel for it.
          obtain ⟨c, cs, spelled, _⟩ := isGap_of_spelling plain_t
          simp [seen_spell_cons plain_t nulFree_t, spelled] at enough
      | succ fuel =>
          have read := lexWith_following (length_following_le plain_t nulFree_t enough) later
          rw [seen_spell_cons plain_t nulFree_t, lexWith_spelling fuel plain_t ends_following, read]
          rfl

theorem lexWith_spell_of_nul {tokens : List Token} (plain : ∀ t ∈ tokens, t.IsPlain)
    (nul : ¬∀ t ∈ tokens, t.IsNulFree) (fuel : Nat) (enough : (seen (spell tokens)).length ≤ fuel) :
    lexWith fuel (seen (spell tokens)) = none := by
  induction tokens generalizing fuel with
  | nil => simp at nul
  | cons t rest ih =>
      have plain_t := plain t List.mem_cons_self
      by_cases nulFree_t : t.IsNulFree
      · have later := ih (fun u member => plain u (List.mem_cons_of_mem _ member))
          fun all => nul (by simpa [nulFree_t] using all)
        cases fuel with
        | zero =>
            obtain ⟨c, cs, spelled, _⟩ := isGap_of_spelling plain_t
            simp [seen_spell_cons plain_t nulFree_t, spelled] at enough
        | succ fuel =>
            have read := lexWith_following (length_following_le plain_t nulFree_t enough) later
            rw [seen_spell_cons plain_t nulFree_t, lexWith_spelling fuel plain_t ends_following, read]
            rfl
      · rw [spell_cons]
        exact lexWith_of_nul nulFree_t fuel _

/-- A spelled row of tokens is read back. -/
theorem lex_spell {tokens : List Token} (plain : ∀ t ∈ tokens, t.IsPlain) (nulFree : ∀ t ∈ tokens, t.IsNulFree) :
    lex (spell tokens) = some tokens :=
  lexWith_spell plain nulFree _ (Nat.le_refl _)

theorem lex_gap (text : List Char) : lex (' ' :: text) = lex text := by
  rw [lex, lex]
  exact lexWith_gap _ _

theorem nulFree_of_lex_spell {tokens : List Token} (plain : ∀ t ∈ tokens, t.IsPlain)
    (read : (lex (spell tokens)).isSome) : ∀ t ∈ tokens, t.IsNulFree := by
  by_contra nul
  rw [lex, show (spell tokens).takeWhile (·.toNat != 0) = seen (spell tokens) from rfl,
    lexWith_spell_of_nul plain nul _ (Nat.le_refl _)] at read
  exact absurd read (by decide)

end Datasheet.Sql
