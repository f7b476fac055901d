import Datasheet.Delimited.Reader
import Datasheet.Delimited.Writer

/-! # Reading written records

Records that were written are read back, whatever their fields hold: a field in quotes keeps delimiters, quotes and
line breaks, a field without quotes has none of them, and no record is written as a blank line.
-/

namespace Datasheet.Delimited

/-! ## Steps of the reader -/

section

variable {α : Type} [DecidableEq α] {m : Marks α} {place : Place} {c : α} {field rest text : List α}
  {fields : List (List α)}

/-- A symbol without a meaning of its own. -/
structure Marks.IsSolid (m : Marks α) (c : α) : Prop where
  delimiter : c ≠ m.delimiter
  quote : c ≠ m.quote
  breaks : m.breaksLine c = false

/-- Where the reader stands after a symbol without a meaning of its own. -/
def Place.inside : Place → Place
  | .quoted => .quoted
  | _ => .plain

theorem Place.inside_inside (place : Place) : place.inside.inside = place.inside := by cases place <;> rfl

theorem readFrom_cons_solid (solid : m.IsSolid c) :
    readFrom m place field fields (c :: rest) = readFrom m place.inside (c :: field) fields rest := by
  cases place with
  | quoted => rw [readFrom, if_neg solid.quote, Place.inside]
  | record | field | plain | closing =>
      simp [readFrom, Place.inside, solid.delimiter, solid.quote, solid.breaks]

theorem readFrom_solid (solid : ∀ c ∈ text, m.IsSolid c) (nonempty : text ≠ []) :
    readFrom m place field fields (text ++ rest) = readFrom m place.inside (text.reverse ++ field) fields rest := by
  induction text generalizing place field with
  | nil => exact absurd rfl nonempty
  | cons c text ih =>
      obtain ⟨first, solid⟩ := List.forall_mem_cons.1 solid
      rw [List.cons_append, readFrom_cons_solid first]
      cases text with
      | nil => rfl
      | cons d text =>
          rw [ih solid (List.cons_ne_nil _ _), Place.inside_inside]
          simp

end

/-! ## Written fields -/

variable {field rest text : List Char} {fields done : List (List Char)} {place : Place}

theorem isSolid_of_needsQuotes {c : Char} (plain : needsQuotes c = false) : (charMarks ',').IsSolid c := by
  simp only [needsQuotes, Bool.or_eq_false_iff, beq_eq_false_iff_ne] at plain
  obtain ⟨⟨⟨delimiter, quote⟩, lineFeed⟩, carriageReturn⟩ := plain
  exact ⟨delimiter, quote, by simp [Marks.breaksLine, charMarks, lineFeed, carriageReturn]⟩

/-- Between quotes the reader takes every character, and a quote where two of them stand. -/
theorem readFrom_doubleQuotes (text : List Char) :
    readFrom (charMarks ',') .quoted field fields (doubleQuotes text ++ '"' :: rest)
      = readFrom (charMarks ',') .closing (text.reverse ++ field) fields rest := by
  induction text generalizing field with
  | nil => rfl
  | cons c text ih =>
      rw [doubleQuotes, List.reverse_cons, List.append_assoc, List.singleton_append]
      split
      next quote =>
          subst quote
          exact ih
      next other =>
          have inside : c ≠ (charMarks ',').quote := other
          rw [List.cons_append, readFrom, if_neg inside]
          exact ih

/-- Where the reader stands after a written field. -/
def Place.after (place : Place) (text : List Char) : Place :=
  if text.any needsQuotes then .closing else if text = [] then place else .plain

theorem readFrom_writeField (starts : place = .record ∨ place = .field) (text : List Char) :
    readFrom (charMarks ',') place [] fields (writeField text ++ rest)
      = readFrom (charMarks ',') (place.after text) text.reverse fields rest := by
  rw [writeField, Place.after]
  split
  next =>
      have opened : readFrom (charMarks ',') place [] fields ('"' :: (doubleQuotes text ++ '"' :: rest))
          = readFrom (charMarks ',') .quoted [] fields (doubleQuotes text ++ '"' :: rest) := by
        rcases starts with rfl | rfl <;> rfl
      rw [List.cons_append, List.append_assoc, List.singleton_append, opened, readFrom_doubleQuotes, List.append_nil]
  next plain =>
      split
      next empty => rw [empty, List.nil_append, List.reverse_nil]
      next nonempty =>
          have solid : ∀ c ∈ text, (charMarks ',').IsSolid c := by
            intro c member
            have plain : text.any needsQuotes = false := by simpa using plain
            exact isSolid_of_needsQuotes (by simpa using List.any_eq_false.1 plain c member)
          rw [readFrom_solid solid nonempty, List.append_nil]
          rcases starts with rfl | rfl <;> rfl

theorem Place.after_ne_quoted (starts : place = .record ∨ place = .field) (text : List Char) :
    place.after text ≠ .quoted := by
  rw [Place.after]
  split
  next => simp
  next =>
      split
      next => rcases starts with rfl | rfl <;> simp
      next => simp

theorem readFrom_comma (outside : place ≠ .quoted) :
    readFrom (charMarks ',') place field fields (',' :: rest)
      = readFrom (charMarks ',') .field [] (field.reverse :: fields) rest := by
  cases place with
  | quoted => exact absurd rfl outside
  | record | field | plain | closing => rfl

theorem readFrom_lineFeed (outside : place ≠ .quoted) (begun : place ≠ .record) :
    readFrom (charMarks ',') place field fields ('\n' :: rest)
      = (field.reverse :: fields).reverse :: readFrom (charMarks ',') .record [] [] rest := by
  cases place with
  | quoted => exact absurd rfl outside
  | record => exact absurd rfl begun
  | field | plain | closing => rfl

/-! ## Written records -/

/-- The fields of a line are read one by one. A line is not blank at the beginning of a record. -/
theorem readFrom_writeFields (starts : place = .record ∨ place = .field) (nonempty : fields ≠ [])
    (solid : place = .record → writeFields fields ≠ []) :
    readFrom (charMarks ',') place [] done (writeFields fields ++ '\n' :: rest)
      = (done.reverse ++ fields) :: readFrom (charMarks ',') .record [] [] rest := by
  induction fields generalizing place done with
  | nil => exact absurd rfl nonempty
  | cons text fields ih =>
      have outside := Place.after_ne_quoted starts text
      cases fields with
      | nil =>
          have begun : place.after text ≠ .record := by
            rcases starts with rfl | rfl
            · have line : writeField text ≠ [] := solid rfl
              rw [writeField] at line
              rw [Place.after]
              split
              next => simp
              next plain =>
                  rw [if_neg plain] at line
                  simp [line]
            · rw [Place.after]
              split
              next => simp
              next => split <;> simp
          rw [writeFields, readFrom_writeField starts, readFrom_lineFeed outside begun]
          simp
      | cons other fields =>
          have later := @ih (text :: done) .field (.inr rfl) (List.cons_ne_nil _ _) (by simp)
          rw [writeFields, List.append_assoc, List.cons_append, readFrom_writeField starts, readFrom_comma outside,
            List.reverse_reverse, later]
          · simp
          · exact List.cons_ne_nil _ _

theorem readFrom_writeRecord (nonempty : fields ≠ []) :
    readFrom (charMarks ',') .record [] [] (writeRecord fields ++ rest)
      = fields :: readFrom (charMarks ',') .record [] [] rest := by
  rw [writeRecord, List.append_assoc, List.singleton_append]
  split
  next blank =>
      -- Only one empty field is written without a character, and then the line gets quotes.
      have line := List.isEmpty_iff.1 blank
      cases fields with
      | nil => exact absurd rfl nonempty
      | cons text fields =>
          cases fields with
          | cons other fields =>
              rw [writeFields] at line
              · simp at line
              · exact List.cons_ne_nil _ _
          | nil =>
              rw [writeFields, writeField] at line
              split at line
              next => simp at line
              next =>
                  subst line
                  rfl
  next solid =>
      exact @readFrom_writeFields rest fields [] .record (.inl rfl) nonempty fun _ => by simpa using solid

/-- Records with at least one field each are read back from what is written of them. -/
theorem records_write {written : List (List (List Char))} (nonempty : ∀ fields ∈ written, fields ≠ []) :
    records (charMarks ',') (write written) = written := by
  induction written with
  | nil => rfl
  | cons fields written ih =>
      obtain ⟨first, nonempty⟩ := List.forall_mem_cons.1 nonempty
      rw [write, List.flatMap_cons, records, readFrom_writeRecord first]
      exact congrArg _ (ih nonempty)

/-! ## The order mark -/

/-- The text does not begin with the mark of the byte order. -/
def HasNoMark (text : List Char) : Prop := text.head? ≠ some (Char.ofNat 0xFEFF)

theorem HasNoMark.append {first second : List Char} (clean : HasNoMark first) (clean' : HasNoMark second) :
    HasNoMark (first ++ second) := by
  cases first with
  | nil => exact clean'
  | cons c first => exact clean

theorem HasNoMark.dropOrderMark_eq (clean : HasNoMark text) : dropOrderMark text = text := by
  cases text with
  | nil => rfl
  | cons c text =>
      have other : c ≠ Char.ofNat 0xFEFF := fun mark => clean (congrArg some mark)
      rw [dropOrderMark, if_neg other]

theorem hasNoMark_write (clean : HasNoMark text) (written : List (List (List Char))) :
    HasNoMark (write ((text :: fields) :: written)) := by
  have quote (later : List Char) : HasNoMark ('"' :: later) := by simp [HasNoMark]
  have comma (later : List Char) : HasNoMark (',' :: later) := by simp [HasNoMark]
  have field : HasNoMark (writeField text) := by
    rw [writeField]
    split
    next => exact quote _
    next => exact clean
  have line : HasNoMark (writeFields (text :: fields)) := by
    cases fields with
    | nil => exact field
    | cons other fields =>
        rw [writeFields]
        · exact field.append (comma _)
        · exact List.cons_ne_nil _ _
  have record : HasNoMark (writeRecord (text :: fields)) := by
    rw [writeRecord]
    refine HasNoMark.append ?_ (by simp [HasNoMark])
    split
    next => exact quote _
    next => exact line
  rw [write, List.flatMap_cons]
  cases h : writeRecord (text :: fields) with
  | nil => simp [writeRecord] at h
  | cons c later =>
      rw [h] at record
      exact record

end Datasheet.Delimited
