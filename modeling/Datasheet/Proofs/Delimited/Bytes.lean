import Datasheet.Dataset.Import
import Datasheet.Proofs.Delimited.Reading

/-! # Texts and their bytes

Delimited text is read from its UTF-8 bytes as it is read from its characters. The marks are ASCII, so each of them
is one byte, and no byte of any other character is taken for a mark.
-/

namespace Datasheet.Delimited

/-- The bytes of a text. -/
def bytesOf (text : List Char) : List UInt8 := text.flatMap String.utf8EncodeChar

@[simp] theorem bytesOf_cons (c : Char) (text : List Char) :
    bytesOf (c :: text) = String.utf8EncodeChar c ++ bytesOf text := List.flatMap_cons

/-! ## Bytes of characters -/

theorem utf8EncodeChar_of_ascii {c : Char} (ascii : c.toNat < 0x80) :
    String.utf8EncodeChar c = [UInt8.ofNat c.toNat] := by
  have small : c.val.toNat ≤ 127 := Nat.le_of_lt_succ ascii
  simp only [String.utf8EncodeChar, small, if_true]
  rfl

theorem le_of_mem_utf8EncodeChar {c : Char} (high : 0x80 ≤ c.toNat) {byte : UInt8}
    (member : byte ∈ String.utf8EncodeChar c) : 0x80 ≤ byte.toNat := by
  have large : ¬c.val.toNat ≤ 127 := Nat.not_le.2 high
  have leads (n m : Nat) (start : 0x80 ≤ m) (fits : n + m < 0x100) : 0x80 ≤ (UInt8.ofNat (n + m)).toNat := by
    rw [UInt8.toNat_ofNat', Nat.mod_eq_of_lt fits]
    omega
  simp only [String.utf8EncodeChar, large, if_false] at member
  split at member
  · simp only [List.mem_cons, List.not_mem_nil, or_false] at member
    rcases member with rfl | rfl <;> exact leads _ _ (by decide) (by omega)
  · split at member
    · simp only [List.mem_cons, List.not_mem_nil, or_false] at member
      rcases member with rfl | rfl | rfl <;> exact leads _ _ (by decide) (by omega)
    · simp only [List.mem_cons, List.not_mem_nil, or_false] at member
      rcases member with rfl | rfl | rfl | rfl <;> exact leads _ _ (by decide) (by omega)

theorem ofNat_eq_iff {c d : Char} (ascii : c.toNat < 0x80) (ascii' : d.toNat < 0x80) :
    UInt8.ofNat c.toNat = UInt8.ofNat d.toNat ↔ c = d := by
  constructor
  · intro same
    have codes := congrArg UInt8.toNat same
    rw [UInt8.toNat_ofNat', UInt8.toNat_ofNat', Nat.mod_eq_of_lt (by omega), Nat.mod_eq_of_lt (by omega)] at codes
    exact Char.ext (UInt32.toNat_inj.1 codes)
  · rintro rfl
    rfl

/-! ## Reading bytes -/

variable {delimiter : Char} {place : Place} {field : List Char} {fields : List (List Char)}

/-- A character outside of ASCII has no meaning of its own, and neither has any of its bytes. -/
theorem isSolid_of_high (ascii : delimiter.toNat < 0x80) {c : Char} (high : 0x80 ≤ c.toNat) :
    (charMarks delimiter).IsSolid c ∧ ∀ byte ∈ String.utf8EncodeChar c, (byteMarks delimiter).IsSolid byte := by
  have apart {d : Char} (ascii : d.toNat < 0x80) : c ≠ d := by
    rintro rfl
    omega
  have apart' {byte : UInt8} (member : byte ∈ String.utf8EncodeChar c) {d : Char} (ascii : d.toNat < 0x80) :
      byte ≠ UInt8.ofNat d.toNat := by
    rintro rfl
    have large := le_of_mem_utf8EncodeChar high member
    rw [UInt8.toNat_ofNat', Nat.mod_eq_of_lt (by omega)] at large
    omega
  constructor
  · refine ⟨apart ascii, @apart '"' (by decide), ?_⟩
    simp [Marks.breaksLine, charMarks, @apart '\n' (by decide), @apart '\r' (by decide)]
  · intro byte member
    refine ⟨apart' member ascii, @apart' byte member '"' (by decide), ?_⟩
    have lineFeed : byte ≠ 10 := @apart' byte member '\n' (by decide)
    have carriageReturn : byte ≠ 13 := @apart' byte member '\r' (by decide)
    simp [Marks.breaksLine, byteMarks, lineFeed, carriageReturn]

theorem marks_of_ascii (ascii : delimiter.toNat < 0x80) {c : Char} (small : c.toNat < 0x80) :
    (UInt8.ofNat c.toNat = (byteMarks delimiter).delimiter ↔ c = (charMarks delimiter).delimiter)
      ∧ (UInt8.ofNat c.toNat = (byteMarks delimiter).quote ↔ c = (charMarks delimiter).quote)
      ∧ (byteMarks delimiter).breaksLine (UInt8.ofNat c.toNat) = (charMarks delimiter).breaksLine c := by
  refine ⟨ofNat_eq_iff small ascii, @ofNat_eq_iff c '"' small (by decide), ?_⟩
  have lineFeed : UInt8.ofNat c.toNat = 10 ↔ c = '\n' := @ofNat_eq_iff c '\n' small (by decide)
  have carriageReturn : UInt8.ofNat c.toNat = 13 ↔ c = '\r' := @ofNat_eq_iff c '\r' small (by decide)
  change (decide (_ = (10 : UInt8)) || decide (_ = (13 : UInt8))) = (decide (c = '\n') || decide (c = '\r'))
  rw [decide_eq_decide.2 lineFeed, decide_eq_decide.2 carriageReturn]

/-- The reader finds the same records in the bytes of a text as in its characters. -/
theorem readFrom_bytesOf (ascii : delimiter.toNat < 0x80) (text : List Char) :
    readFrom (byteMarks delimiter) place (bytesOf field.reverse).reverse (fields.map bytesOf) (bytesOf text)
      = (readFrom (charMarks delimiter) place field fields text).map (·.map bytesOf) := by
  induction text generalizing place field fields with
  | nil => cases place <;> simp [bytesOf, readFrom]
  | cons c text ih =>
      by_cases small : c.toNat < 0x80
      · obtain ⟨delimits, quotes, breaks⟩ := marks_of_ascii ascii small
        have grown : UInt8.ofNat c.toNat :: (bytesOf field.reverse).reverse = (bytesOf (c :: field).reverse).reverse := by
          simp [utf8EncodeChar_of_ascii small, bytesOf]
        have emptied (place : Place) (fields : List (List Char)) :
            readFrom (byteMarks delimiter) place [] (fields.map bytesOf) (bytesOf text)
              = (readFrom (charMarks delimiter) place [] fields text).map (·.map bytesOf) := @ih place [] fields
        have skipped := emptied .record []
        have ended := emptied .field (field.reverse :: fields)
        rw [List.map_nil] at skipped
        rw [List.map_cons] at ended
        rw [bytesOf_cons, utf8EncodeChar_of_ascii small, List.singleton_append]
        cases place with
        | quoted =>
            simp only [readFrom, quotes, grown, ih]
            split <;> rfl
        | record | field | plain | closing =>
            simp only [readFrom, quotes, delimits, breaks, grown, reduceCtorEq, false_and, true_and, or_true, or_false,
              if_false, List.reverse_reverse, ih, emptied, skipped, ended]
            simp only [apply_ite (List.map fun x : List (List Char) => x.map bytesOf), List.map_cons, List.map_reverse]
      · obtain ⟨solid, solid'⟩ := isSolid_of_high ascii (Nat.le_of_not_lt small)
        have grown : (String.utf8EncodeChar c).reverse ++ (bytesOf field.reverse).reverse
            = (bytesOf (c :: field).reverse).reverse := by simp [bytesOf]
        rw [bytesOf_cons, readFrom_solid solid' String.utf8EncodeChar_ne_nil, readFrom_cons_solid solid, grown]
        exact ih

/-! ## Whole texts -/

theorem mk_toArray_eq (bytes : List UInt8) : (⟨bytes.toArray⟩ : ByteArray) = bytes.toByteArray := by
  apply ByteArray.ext
  rw [← Array.toList_inj, List.toList_data_toByteArray]

theorem fromUTF8?_bytesOf (text : List Char) : String.fromUTF8? ⟨(bytesOf text).toArray⟩ = some (String.ofList text) := by
  have valid : (bytesOf text).toByteArray.IsValidUTF8 := @ByteArray.isValidUTF8_utf8Encode text
  rw [mk_toArray_eq, String.fromUTF8?, dif_pos valid]
  rfl

theorem bytesOf_toList (text : String) : bytesOf text.toList = text.toUTF8.data.toList := by
  rw [String.toUTF8_eq_toByteArray, ← String.utf8Encode_toList, List.utf8Encode, List.toList_data_toByteArray]
  rfl

theorem fromUTF8?_toUTF8 (text : String) : String.fromUTF8? ⟨text.toUTF8.data.toList.toArray⟩ = some text := by
  rw [← bytesOf_toList, fromUTF8?_bytesOf, String.ofList_toList]

theorem dropOrderMarkBytes_bytesOf (text : List Char) :
    dropOrderMarkBytes (bytesOf text) = bytesOf (dropOrderMark text) := by
  cases text with
  | nil => rfl
  | cons c text =>
      have mark : String.utf8EncodeChar (Char.ofNat 0xFEFF) = [0xEF, 0xBB, 0xBF] := by decide
      rw [dropOrderMark]
      split
      next same =>
          rw [bytesOf_cons, same, mark]
          rfl
      next other =>
          rw [dropOrderMarkBytes]
          -- The first character of a text can be told from its bytes.
          intro rest start
          have first : (bytesOf (c :: text)).toByteArray.utf8DecodeChar? 0 = some c := List.utf8DecodeChar?_utf8Encode_cons
          have start' : bytesOf (c :: text) = String.utf8EncodeChar (Char.ofNat 0xFEFF) ++ rest := by rw [start, mark]; rfl
          rw [start', List.toByteArray_append, ByteArray.utf8DecodeChar?_utf8EncodeChar_append] at first
          exact other (Option.some.inj first).symm

end Datasheet.Delimited
