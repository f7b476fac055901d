import Datasheet.Proofs.Delimited.Bytes
import Datasheet.Sheet.Export

/-! # Exporting and importing

A sheet that was exported is imported again as it was, whatever its names and cells hold. The text may be read as
characters or as UTF-8 bytes: both give the same dataset.
-/

namespace Datasheet.Dataset

open Delimited

/-! ## Bytes and characters -/

section

variable {α β : Type} {decode : List α → Option String} {decode' : List β → Option String} {code : List α → List β}

theorem decodeRecord_map (same : ∀ field, decode' (code field) = decode field) (record : List (List α)) :
    decodeRecord decode' (record.map code) = decodeRecord decode record := by
  have cells : (record.map code).mapM decode' = record.mapM decode := by
    rw [List.mapM_map]
    exact congrArg (record.mapM ·) (funext same)
  rw [decodeRecord, decodeRecord, cells]

theorem decodeRows_map (same : ∀ field, decode' (code field) = decode field) (expected position : Nat)
    (records : List (List (List α))) :
    decodeRows decode' expected position (records.map (·.map code)) = decodeRows decode expected position records := by
  induction records generalizing position with
  | nil => rfl
  | cons record records ih => rw [List.map_cons, decodeRows, decodeRows, decodeRecord_map same, ih]

theorem ofRecords_map (same : ∀ field, decode' (code field) = decode field) (name : String)
    (settings : ImportSettings) (records : List (List (List α))) :
    ofRecords decode' name settings (records.map (·.map code)) = ofRecords decode name settings records := by
  have header : (records.map (·.map code)).headD [] = (records.headD []).map code := by cases records <;> rfl
  simp only [ofRecords, header, decodeRecord_map same, ← List.map_tail, decodeRows_map same]

end

theorem ofBytes_toUTF8 (name : String) (settings : ImportSettings) (text : String) :
    ofBytes name settings text.toUTF8.data.toList = ofText name settings text := by
  rw [ofBytes, ofText]
  cases checked : settings.checkDelimiter with
  | error fault => rfl
  | ok delimiter =>
      have ascii : delimiter.toNat < 0x80 := by
        rw [ImportSettings.checkDelimiter] at checked
        split at checked
        next small => exact Except.ok.inj checked ▸ small
        next => exact absurd checked (by simp)
      have found : records (byteMarks delimiter) (bytesOf (dropOrderMark text.toList))
          = (records (charMarks delimiter) (dropOrderMark text.toList)).map (·.map bytesOf) :=
        @readFrom_bytesOf delimiter .record [] [] ascii (dropOrderMark text.toList)
      rw [← bytesOf_toList, dropOrderMarkBytes_bytesOf]
      simp only [bind, Except.bind, found]
      exact ofRecords_map fromUTF8?_bytesOf name settings _

/-! ## Exported sheets -/

theorem decodeRecord_toList (cells : List String) :
    decodeRecord (fun field => some (String.ofList field)) (cells.map String.toList) = .ok cells := by
  have all : (cells.map String.toList).mapM (fun field => some (String.ofList field)) = some cells := by
    induction cells with
    | nil => rfl
    | cons cell cells ih => simp [ih]
  rw [decodeRecord, all]

theorem decodeRows_toList {expected : Nat} {rows : List (List String)} (even : ∀ row ∈ rows, row.length = expected)
    (position : Nat) :
    decodeRows (fun field => some (String.ofList field)) expected position (rows.map (·.map String.toList)) = .ok rows := by
  induction rows generalizing position with
  | nil => rfl
  | cons row rows ih =>
      obtain ⟨first, even⟩ := List.forall_mem_cons.1 even
      rw [List.map_cons, decodeRows, decodeRecord_toList]
      simp [bind, Except.bind, first, ih even]

/-- The records of a sheet are imported as the sheet, if cells keep the blanks around them. -/
theorem ofRecords_records (name : String) {settings : ImportSettings} (kept : settings.trimCells = false) (s : Sheet) :
    ofRecords (fun field => some (String.ofList field)) name settings s.records = .ok ⟨name, s⟩ := by
  have cell : keptCell settings = id := funext fun cell => by simp [keptCell, kept]
  rw [ofRecords, Sheet.records, List.map_cons, List.headD_cons, List.tail_cons, decodeRecord_toList]
  simp only [bind, Except.bind, decodeRows_toList s.rectangular, cell, List.map_id, List.map_id', ofRows]
  rw [Sheet.ofRows_eq_ok s.rectangular]
  rfl

theorem records_ne_nil {s : Sheet} (columns : s.header ≠ []) : ∀ fields ∈ s.records, fields ≠ [] := by
  intro fields member
  obtain ⟨cells, inside, rfl⟩ := List.mem_map.1 member
  have length : cells.length = s.header.length := by
    rcases List.mem_cons.1 inside with rfl | inside
    · rfl
    · exact s.rectangular cells inside
  intro empty
  rw [List.map_eq_nil_iff] at empty
  rw [empty] at length
  exact columns (List.length_eq_zero_iff.1 length.symm)

/-- An exported sheet with at least one column is imported as it was, from its bytes and from its characters. Only a
    first name that begins with the mark of the byte order would lose it. -/
theorem import_undoes_export (name : String) (s : Sheet) (columns : s.header ≠ [])
    (noMark : ∀ first ∈ s.header.head?, first.toList.head? ≠ some (Char.ofNat 0xFEFF)) :
    ofBytes name {} s.exported.toUTF8.data.toList = .ok ⟨name, s⟩ ∧ ofText name {} s.exported = .ok ⟨name, s⟩ := by
  have imported : ofText name {} s.exported = .ok ⟨name, s⟩ := by
    have clean : dropOrderMark (write s.records) = write s.records := by
      cases h : s.header with
      | nil => exact absurd h columns
      | cons first header =>
          have begins : s.records
              = (first.toList :: header.map String.toList) :: s.rows.map (·.map String.toList) := by
            rw [Sheet.records, h]
            rfl
          rw [begins]
          exact (hasNoMark_write (noMark first (by rw [h]; rfl)) _).dropOrderMark_eq
    have checked : ImportSettings.checkDelimiter {} = .ok ',' := rfl
    rw [ofText, checked, Sheet.exported, String.toList_ofList, clean]
    change ofRecords _ name {} (records (charMarks ',') (write s.records)) = _
    rw [records_write (records_ne_nil columns)]
    exact ofRecords_records name rfl s
  exact ⟨(ofBytes_toUTF8 name {} s.exported).trans imported, imported⟩

/-- A sheet of one column with an empty name, an empty cell, marks of all kinds and a cell that looks blank. -/
def oddSheet : Sheet :=
  ⟨[""], [[""], ["a,b"], ["say \"yes\""], ["\r\n"], [" \t"], ["é\n"]], by decide⟩

theorem import_undoes_export_oddSheet :
    oddSheet.header ≠ [] ∧ (∀ first ∈ oddSheet.header.head?, first.toList.head? ≠ some (Char.ofNat 0xFEFF))
      ∧ ofBytes "odd" {} oddSheet.exported.toUTF8.data.toList = .ok ⟨"odd", oddSheet⟩
      ∧ ofText "odd" {} oddSheet.exported = .ok ⟨"odd", oddSheet⟩ := by
  have columns : oddSheet.header ≠ [] := by decide
  have noMark : ∀ first ∈ oddSheet.header.head?, first.toList.head? ≠ some (Char.ofNat 0xFEFF) := by decide
  exact ⟨columns, noMark, import_undoes_export "odd" oddSheet columns noMark⟩

end Datasheet.Dataset
