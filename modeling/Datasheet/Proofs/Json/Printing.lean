import Datasheet.Json.Printer
import Datasheet.Json.Reader
import Mathlib.Tactic.SplitIfs

/-! # Reading what has been written

The reader gets every value back that the printer wrote, whatever the level of its first line is and whatever
stands behind it. Only numbers are left out: they are kept as they are spelled, and not every spelling is one.
-/

namespace Datasheet.Json

/-- A value without numbers whose strings and names have texts. -/
inductive Value.IsPlain : Value → Prop where
  | null : IsPlain .null
  | bool (b : Bool) : IsPlain (.bool b)
  | string (s : List Char) : IsPlain (.string (some s))
  | array {elements : List Value} (plain : ∀ v ∈ elements, IsPlain v) : IsPlain (.array elements)
  | object {members : List (Option (List Char) × Value)} (named : ∀ m ∈ members, m.1.isSome = true)
      (plain : ∀ m ∈ members, IsPlain m.2) : IsPlain (.object members)

/-! ## Strings -/

/-- What is left of a string after its first character has been read. -/
def continued (c : Char) (read : Option (Option (List Char) × List Char)) : Option (Option (List Char) × List Char) :=
  read.map fun (s, rest) => (s.map (c :: ·), rest)

theorem hexDigit?_hexDigit : ∀ n < 16, hexDigit? (hexDigit n) = some n := by decide

theorem readUnit_control {n : Nat} (control : n < 0x20) (rest : List Char) :
    readUnit ('0' :: '0' :: hexDigit (n / 16) :: hexDigit (n % 16) :: rest) = some (n, rest) := by
  have zero : hexDigit? '0' = some 0 := by decide
  simp only [readUnit, zero, hexDigit?_hexDigit (n / 16) (by omega), hexDigit?_hexDigit (n % 16) (by omega)]
  simp
  omega

theorem readString_letter {letter c : Char} (short : shortEscape? letter = some c) (fuel : Nat) (cs : List Char) :
    readString (fuel + 1) ('\\' :: letter :: cs) = continued c (readString fuel cs) := by
  have notUnit : letter ≠ 'u' := by
    rintro rfl
    cases short
  rw [readString, if_neg (by decide), if_pos rfl, short]
  · cases readString fuel cs <;> rfl
  · exact notUnit

theorem readString_control {c : Char} (control : c.toNat < 0x20) (fuel : Nat) (cs : List Char) :
    readString (fuel + 1) ('\\' :: 'u' :: '0' :: '0' :: hexDigit (c.toNat / 16) :: hexDigit (c.toNat % 16) :: cs) =
      continued c (readString fuel cs) := by
  have high : isHighHalf c.toNat = false := by simp [isHighHalf]; omega
  have low : isLowHalf c.toNat = false := by simp [isLowHalf]; omega
  rw [readString, if_neg (by decide), if_pos rfl]
  simp only [readUnit_control control, Option.bind_eq_bind, Option.bind_some]
  rw [high, low]
  cases readString fuel cs <;> simp [continued]

theorem readString_plain {c : Char} (quote : c ≠ '"') (backslash : c ≠ '\\') (visible : ¬c.toNat < 0x20) (fuel : Nat)
    (cs : List Char) : readString (fuel + 1) (c :: cs) = continued c (readString fuel cs) := by
  simp only [readString, if_neg quote, if_neg backslash, if_neg visible]
  cases readString fuel cs <;> rfl

theorem readString_writeChar (c : Char) (fuel : Nat) (cs : List Char) :
    readString (fuel + 1) (writeChar c ++ cs) = continued c (readString fuel cs) := by
  unfold writeChar
  split
  · next here =>
      subst here
      exact readString_letter rfl fuel cs
  next quote =>
  split
  · next here =>
      subst here
      exact readString_letter rfl fuel cs
  next backslash =>
  split
  · next here =>
      subst here
      exact readString_letter rfl fuel cs
  split
  · next here =>
      subst here
      exact readString_letter rfl fuel cs
  split
  · next here =>
      subst here
      exact readString_letter rfl fuel cs
  split
  · next here =>
      subst here
      exact readString_letter rfl fuel cs
  split
  · next here =>
      subst here
      exact readString_letter rfl fuel cs
  split
  · next control => exact readString_control control fuel cs
  · next visible => exact readString_plain quote backslash visible fuel cs

theorem length_le_flatMap_writeChar (s : List Char) : s.length ≤ (s.flatMap writeChar).length := by
  induction s with
  | nil => exact Nat.le_refl 0
  | cons c s ih =>
      have some_written : 1 ≤ (writeChar c).length := by
        unfold writeChar
        split_ifs <;> simp
      rw [List.flatMap_cons, List.length_append, List.length_cons]
      omega

theorem readString_flatMap (s rest : List Char) {fuel : Nat} (enough : s.length < fuel) :
    readString fuel (s.flatMap writeChar ++ '"' :: rest) = some (some s, rest) := by
  induction s generalizing fuel with
  | nil =>
      obtain ⟨fuel, rfl⟩ := Nat.exists_eq_add_one.2 enough
      rfl
  | cons c s ih =>
      obtain ⟨fuel, rfl⟩ := Nat.exists_eq_add_one.2 (Nat.zero_lt_of_lt enough)
      rw [List.flatMap_cons, List.append_assoc, readString_writeChar, ih (Nat.lt_of_succ_lt_succ enough)]
      rfl

theorem readString_written (s rest : List Char) :
    readString ((s.flatMap writeChar ++ '"' :: rest).length + 1) (s.flatMap writeChar ++ '"' :: rest) =
      some (some s, rest) := by
  apply readString_flatMap
  have short := length_le_flatMap_writeChar s
  rw [List.length_append]
  omega

/-! ## Space -/

theorem skipSpace_indent (level : Nat) (cs : List Char) : skipSpace (indent level ++ cs) = skipSpace cs := by
  apply List.dropWhile_append_of_pos
  intro c member
  rcases List.mem_cons.1 member with rfl | inside
  · rfl
  · rw [List.eq_of_mem_replicate inside]
    rfl

theorem exists_writeAt {v : Value} (plain : v.IsPlain) (level : Nat) :
    ∃ c cs, writeAt level v = c :: cs ∧ isSpace c = false ∧ c ≠ ']' := by
  cases plain with
  | null => exact ⟨_, _, rfl, by decide, by decide⟩
  | bool b => cases b <;> exact ⟨_, _, rfl, by decide, by decide⟩
  | string s => exact ⟨_, _, rfl, by decide, by decide⟩
  | @array elements plain =>
      cases elements with
      | nil => exact ⟨_, _, rfl, by decide, by decide⟩
      | cons v vs => exact ⟨'[', writeElements (level + 1) (v :: vs) ++ indent level ++ [']'], rfl, by decide, by decide⟩
  | @object members named plain =>
      cases members with
      | nil => exact ⟨_, _, rfl, by decide, by decide⟩
      | cons m ms => exact ⟨'{', writeMembers (level + 1) (m :: ms) ++ indent level ++ ['}'], rfl, by decide, by decide⟩

theorem skipSpace_of_solid {c : Char} (solid : isSpace c = false) (cs : List Char) : skipSpace (c :: cs) = c :: cs :=
  List.dropWhile_cons_of_neg (by simp [solid])

theorem readValue_indent (fuel level : Nat) (cs : List Char) : readValue fuel (indent level ++ cs) = readValue fuel cs := by
  cases fuel with
  | zero => rfl
  | succ fuel => simp only [readValue, skipSpace_indent]

theorem readValue_space (fuel : Nat) (cs : List Char) : readValue fuel (' ' :: cs) = readValue fuel cs := by
  cases fuel with
  | zero => rfl
  | succ fuel => rfl

/-! ## Values -/

/-- A value is read back in front of anything, with a round for each of its characters and one more. -/
def Value.ReadsBack (v : Value) : Prop :=
  ∀ level fuel rest, (writeAt level v).length ≤ fuel → readValue (fuel + 1) (writeAt level v ++ rest) = some (v, rest)

theorem length_indent_pos (level : Nat) : 0 < (indent level).length := Nat.succ_pos _

/-- Elements are read back up to the bracket behind them. Each of them stands behind an indent, which makes up for the
    round that finds it. -/
theorem readElements_written {elements : List Value} (some_written : elements ≠ [])
    (back : ∀ v ∈ elements, v.ReadsBack) (level outer fuel : Nat) (rest : List Char)
    (enough : (writeElements level elements).length < fuel) :
    readElements fuel (writeElements level elements ++ (indent outer ++ ']' :: rest)) = some (elements, rest) := by
  induction elements generalizing fuel with
  | nil => exact absurd rfl some_written
  | cons v vs ih =>
      have indented := length_indent_pos level
      cases vs with
      | nil =>
          simp only [writeElements, List.length_append] at enough
          obtain ⟨fuel, rfl⟩ : ∃ k, fuel = k + 2 := ⟨fuel - 2, by omega⟩
          have here := back v List.mem_cons_self level fuel (indent outer ++ ']' :: rest) (by omega)
          simp only [writeElements, readElements, List.append_assoc, readValue_indent, here, Option.bind_eq_bind,
            Option.bind_some, skipSpace_indent, skipSpace_of_solid (by decide : isSpace ']' = false)]
      | cons w ws =>
          simp only [writeElements, List.length_append, List.length_cons] at enough
          obtain ⟨fuel, rfl⟩ : ∃ k, fuel = k + 2 := ⟨fuel - 2, by omega⟩
          have here := back v List.mem_cons_self level fuel
            (',' :: (writeElements level (w :: ws) ++ (indent outer ++ ']' :: rest))) (by omega)
          have later := ih (by simp) (fun v member => back v (List.mem_cons_of_mem _ member)) (fuel + 1) (by omega)
          rw [writeElements, readElements]
          · simp only [List.append_assoc, List.cons_append, readValue_indent, here, Option.bind_eq_bind,
              Option.bind_some, skipSpace_of_solid (by decide : isSpace ',' = false), later]
          · simp

theorem readMembers_written {members : List (Option (List Char) × Value)} (some_written : members ≠ [])
    (named : ∀ m ∈ members, m.1.isSome = true) (back : ∀ m ∈ members, m.2.ReadsBack) (level outer fuel : Nat)
    (rest : List Char) (enough : (writeMembers level members).length < fuel) :
    readMembers fuel (writeMembers level members ++ (indent outer ++ '}' :: rest)) = some (members, rest) := by
  induction members generalizing fuel with
  | nil => exact absurd rfl some_written
  | cons m ms ih =>
      obtain ⟨name, v⟩ := m
      obtain ⟨name, rfl⟩ := Option.isSome_iff_exists.1 (named _ List.mem_cons_self)
      have indented := length_indent_pos level
      cases ms with
      | nil =>
          simp only [writeMembers, List.length_append, List.length_cons] at enough
          obtain ⟨fuel, rfl⟩ : ∃ k, fuel = k + 2 := ⟨fuel - 2, by omega⟩
          have here := back _ List.mem_cons_self level fuel (indent outer ++ '}' :: rest) (by dsimp only; omega)
          dsimp only at here
          simp only [writeMembers, writeString, Option.getD_some, readMembers, List.append_assoc, List.cons_append,
            List.nil_append, skipSpace_indent, skipSpace_of_solid (by decide : isSpace '"' = false), readString_written,
            skipSpace_of_solid (by decide : isSpace ':' = false), readValue_space, here, Option.bind_eq_bind,
            Option.bind_some, skipSpace_of_solid (by decide : isSpace '}' = false)]
      | cons m' ms =>
          simp only [writeMembers, List.length_append, List.length_cons] at enough
          obtain ⟨fuel, rfl⟩ : ∃ k, fuel = k + 2 := ⟨fuel - 2, by omega⟩
          have here := back _ List.mem_cons_self level fuel
            (',' :: (writeMembers level (m' :: ms) ++ (indent outer ++ '}' :: rest))) (by dsimp only; omega)
          have later := ih (by simp) (fun m member => named m (List.mem_cons_of_mem _ member))
            (fun m member => back m (List.mem_cons_of_mem _ member)) (fuel + 1) (by omega)
          dsimp only at here
          rw [writeMembers, readMembers]
          · simp only [writeString, Option.getD_some, List.append_assoc, List.cons_append, List.nil_append,
              skipSpace_indent, skipSpace_of_solid (by decide : isSpace '"' = false), readString_written,
              skipSpace_of_solid (by decide : isSpace ':' = false), readValue_space, here, Option.bind_eq_bind,
              Option.bind_some, skipSpace_of_solid (by decide : isSpace ',' = false), later]
          · simp

theorem skipSpace_writeElements {v : Value} (plain : v.IsPlain) (vs : List Value) (level : Nat) (cs : List Char) :
    ∃ c tail, skipSpace (writeElements level (v :: vs) ++ cs) = c :: tail ∧ c ≠ ']' := by
  obtain ⟨c, tail, head, solid, other⟩ := exists_writeAt plain level
  have starts : ∃ later, writeElements level (v :: vs) ++ cs = indent level ++ (c :: later) := by
    cases vs with
    | nil => exact ⟨tail ++ cs, by simp [writeElements, head]⟩
    | cons w ws => exact ⟨tail ++ ',' :: writeElements level (w :: ws) ++ cs, by simp [writeElements, head]⟩
  obtain ⟨later, split⟩ := starts
  exact ⟨c, later, by rw [split, skipSpace_indent, skipSpace_of_solid solid], other⟩

theorem skipSpace_writeMembers (m : Option (List Char) × Value) (ms : List (Option (List Char) × Value)) (level : Nat)
    (cs : List Char) : ∃ tail, skipSpace (writeMembers level (m :: ms) ++ cs) = '"' :: tail := by
  obtain ⟨name, v⟩ := m
  cases ms with
  | nil =>
      simp only [writeMembers, writeString, List.append_assoc, skipSpace_indent, List.cons_append]
      exact ⟨_, skipSpace_of_solid (by decide) _⟩
  | cons m' ms =>
      rw [writeMembers]
      · simp only [writeString, List.append_assoc, skipSpace_indent, List.cons_append]
        exact ⟨_, skipSpace_of_solid (by decide) _⟩
      · simp

/-- Every plain value is read back. -/
theorem readsBack {v : Value} (plain : v.IsPlain) : v.ReadsBack := by
  induction plain with
  | null =>
      intro level fuel rest enough
      rfl
  | bool b =>
      intro level fuel rest enough
      cases b <;> rfl
  | string s =>
      intro level fuel rest enough
      simp only [writeAt, writeString, Option.getD_some, List.cons_append, List.append_assoc, List.nil_append, readValue,
        skipSpace_of_solid (by decide : isSpace '"' = false), readString_written]
      rfl
  | @array elements plain ih =>
      intro level fuel rest enough
      cases elements with
      | nil => rfl
      | cons v vs =>
          have text : writeAt level (.array (v :: vs)) ++ rest =
              '[' :: (writeElements (level + 1) (v :: vs) ++ (indent level ++ ']' :: rest)) := by simp [writeAt]
          have shorter : (writeElements (level + 1) (v :: vs)).length < fuel := by
            simp only [writeAt, List.length_cons, List.length_append] at enough
            omega
          -- The space behind the bracket is skipped, and then no closing bracket is found.
          obtain ⟨c, tail, head, other⟩ := skipSpace_writeElements (plain v List.mem_cons_self) vs (level + 1)
            (indent level ++ ']' :: rest)
          have back := readElements_written (by simp) ih (level + 1) level fuel rest shorter
          rw [text]
          simp only [readValue, skipSpace_of_solid (by decide : isSpace '[' = false), head, back]
          simp [other]
  | @object members named plain ih =>
      intro level fuel rest enough
      cases members with
      | nil => rfl
      | cons m ms =>
          have text : writeAt level (.object (m :: ms)) ++ rest =
              '{' :: (writeMembers (level + 1) (m :: ms) ++ (indent level ++ '}' :: rest)) := by simp [writeAt]
          have shorter : (writeMembers (level + 1) (m :: ms)).length < fuel := by
            simp only [writeAt, List.length_cons, List.length_append] at enough
            omega
          obtain ⟨tail, head⟩ := skipSpace_writeMembers m ms (level + 1) (indent level ++ '}' :: rest)
          have back := readMembers_written (by simp) named ih (level + 1) level fuel rest shorter
          rw [text]
          simp only [readValue, skipSpace_of_solid (by decide : isSpace '{' = false), head, back]
          rfl

/-- Reading a written text gives the value. -/
theorem read?_write {v : Value} (plain : v.IsPlain) : read? (write v) = some v := by
  have back := readsBack plain 0 (2 * (writeAt 0 v).length + 1) [] (by omega)
  rw [List.append_nil] at back
  rw [read?, write, back]
  rfl

end Datasheet.Json
