import Mathlib.Data.String.Basic
import Datasheet.Proofs.Sheet.Paging
import Datasheet.Proofs.Sql.Refusing

/-! # Pages of an answer

The engine answers a page as the same page of all rows would be, and stops at its last row. But it counts in signed
numbers of 64 bits: it refuses every page whose size or first position is not one of them.
-/

namespace Datasheet.Sql

namespace Check

theorem scan_some {t : Table} {checks : List Check} {rows kept : List Row} (scanned : scan t checks none rows = .ok kept)
    (needed : Nat) : scan t checks (some needed) rows = .ok (kept.take needed) := by
  induction rows generalizing needed kept with
  | nil =>
      obtain rfl := Except.ok.inj scanned
      cases needed <;> rfl
  | cons row rows ih =>
      cases needed with
      | zero => rfl
      | succ needed =>
          -- Both scans test this row alike; only a row that is kept counts the limit down.
          rw [scan] at scanned ⊢
          · obtain ⟨holds, verdict, scanned⟩ := bind_eq_ok.1 scanned
            refine bind_eq_ok.2 ⟨holds, verdict, ?_⟩
            cases holds with
            | false => exact ih scanned (needed + 1)
            | true =>
                obtain ⟨others, later, made⟩ := bind_eq_ok.1 scanned
                obtain rfl := Except.ok.inj made
                exact bind_eq_ok.2 ⟨others.take needed, ih later needed, rfl⟩
          · simp
          · simp

end Check

/-- A window shows its part of all rows. It needs no rows behind that part. -/
theorem Answer.sheet_window {names : List Name} {t : Table} {kept : List Row} {all : Sheet}
    (shown : (Answer.rows names none).sheet t kept = .ok all) {w : Window} (limited : w.limit ≠ 0) :
    (Answer.rows names (some w)).sheet t (kept.take (w.offset + w.limit)) = .ok (all.slice w.offset w.limit) := by
  have part : ((kept.take (w.offset + w.limit)).drop w.offset).take w.limit = (kept.drop w.offset).take w.limit := by
    rw [List.drop_take, Nat.add_sub_cancel_left, List.take_take, Nat.min_self]
  have made := Sheet.ofRows_slice shown w.offset w.limit
  simp only [Answer.sheet, sheetOf, if_neg limited, part]
  simpa only [List.map_take, List.map_drop] using made

theorem Query.run_window {names : List Name} {table : Name} {conditions : List Condition} {t : Table} {all : Sheet}
    (ran : Query.run ⟨.rows names none, table, conditions⟩ t = .ok all) {w : Window} (limited : w.limit ≠ 0) :
    Query.run ⟨.rows names (some w), table, conditions⟩ t
      = if w.isReadable then .ok (all.slice w.offset w.limit) else .error (.execution (.refused .countMismatch)) := by
  have same : Query.fault? ⟨.rows names (some w), table, conditions⟩ t
      = Query.fault? ⟨.rows names none, table, conditions⟩ t := rfl
  rw [Query.run] at ran ⊢
  rw [same]
  cases fault : Query.fault? ⟨.rows names none, table, conditions⟩ t with
  | some cause => simp [fault] at ran
  | none =>
      rw [fault] at ran
      dsimp only [Option.none_or, Answer.startFault?, Answer.needed] at ran ⊢
      cases scanned : Check.scan t (conditions.map (·.check t)) none t.rows with
      | error cause => simp [scanned] at ran
      | ok kept =>
          rw [scanned] at ran
          cases w.isReadable with
          | false => rfl
          | true =>
              simp only [if_true, if_neg limited, Check.scan_some scanned]
              exact Answer.sheet_window ran limited

namespace Engine

variable {e : Engine} {b : QueryBuilder} {request : Request} {all : Sheet}

/-- A request for a window is answered by its part of all rows if the engine can read its limits. -/
theorem reply_window (connected : e.connect = .ok true) (table : b.table = e.tableName) (ran : e.reply b .all = .ok all)
    (unnamed : b.namedFields request = []) {w : Window}
    (outlined : b.outline request = .ok { answer := .rows [] (some w) }) (limited : w.limit ≠ 0) :
    e.reply b request
      = if w.isReadable then .ok (all.slice w.offset w.limit) else .error (.execution (.refused .countMismatch)) := by
  have checked := checked_of_connect connected
  obtain ⟨q, made, answered⟩ := reply_eq_ok ran
  obtain ⟨_, ranWhole⟩ := readable_of_answer made answered
  obtain ⟨o, outlinedWhole, correct, rfl⟩ := QueryBuilder.query_eq_ok.1 made
  obtain rfl := Except.ok.inj outlinedWhole
  have madePart := QueryBuilder.query_eq_ok.2 ⟨_, outlined, correct, rfl⟩
  have read : ∀ name ∈ b.namedFields request ++ b.filters.map (·.field), e.Reads name := by
    intro name member
    rw [unnamed, List.nil_append] at member
    apply checked.reads_of_takes
    exact takes_of_reply ran (List.mem_append_right _ member)
  rw [reply_eq madePart, answer_text checked table madePart read (nulFree_of_answer made answered)]
  exact Query.run_window ranWhole limited

theorem isReadable_pageWindow (sized : b.pageSize ≠ 0) (number : Nat) : (b.pageWindow number).isReadable
    = decide (b.pageSize ≤ greatestLimit ∧ number * b.pageSize ≤ greatestLimit) := by
  have limit : greatestLimit = 2 ^ 63 - 1 := rfl
  have offset : saturated (number * b.pageSize) ≤ greatestLimit ↔ number * b.pageSize ≤ greatestLimit := by
    rw [saturated_eq, limit]
    omega
  rw [QueryBuilder.pageWindow, Window.isReadable, beq_false_of_ne sized, Bool.false_or, Bool.decide_and, decide_eq_decide.2 offset]

/-- A page that the engine can read is the one that is cut out in memory. -/
theorem slice_pageWindow (sheet : Sheet) {number : Nat} (size : b.pageSize ≤ greatestLimit)
    (first : number * b.pageSize ≤ greatestLimit) :
    sheet.slice (b.pageWindow number).offset (b.pageWindow number).limit = sheet.page number b.pageSize := by
  have limit : greatestLimit = 2 ^ 63 - 1 := rfl
  have unclamped : saturated (number * b.pageSize) = number * b.pageSize := by
    rw [saturated_eq]
    omega
  rw [Sheet.page_eq_slice (by omega), QueryBuilder.pageWindow, unclamped]

/-- If the engine answers all rows under a builder's filters, it answers every page of the configured size whose size and
    first position are signed numbers of 64 bits as the same page of all rows, also behind the last row. It refuses
    every other page. -/
theorem pages_as_in_memory (connected : e.connect = .ok true) (table : b.table = e.tableName) (settings : QuerySettings)
    (s s' : Session Unit Bool) (ran : (s.ask e.backend (b.configure settings) .all).1 = .ok all) (number : Nat) :
    (s'.ask e.backend (b.configure settings) (.page number)).1
      = if (b.configure settings).pageSize ≤ greatestLimit
          ∧ number * (b.configure settings).pageSize ≤ greatestLimit
        then .ok (all.page number (b.configure settings).pageSize)
        else .error (.execution (.refused .countMismatch)) := by
  have sized : (b.configure settings).pageSize ≠ 0 := by
    change max settings.pageSize 1 ≠ 0
    omega
  have based : (b.configure settings).table = e.tableName := table
  have outlined : (b.configure settings).outline (.page number)
      = .ok { answer := .rows [] (some ((b.configure settings).pageWindow number)) } := rfl
  rw [ask_backend connected, reply_window connected based (reply_of_ask ran) rfl outlined sized,
    isReadable_pageWindow sized]
  by_cases readable : (b.configure settings).pageSize ≤ greatestLimit
      ∧ number * (b.configure settings).pageSize ≤ greatestLimit
  · rw [if_pos readable, if_pos (decide_eq_true readable), slice_pageWindow all readable.1 readable.2]
  · rw [if_neg readable, if_neg (by simpa using readable)]

/-- The working days of a week. -/
def week : Engine where
  tableName := "week"
  dataset := ⟨"week", Sheet.workingDays⟩

/-- Under a filter that leaves two days, the second page of one row has the second of them, and no page has more. -/
theorem pages_as_in_memory_week :
    let s : Session Unit Bool := ⟨(), none, []⟩
    let filters : List Filter := [⟨"day", .text .contains, "U"⟩]
    let b : QueryBuilder := QueryBuilder.configure { table := "week", fields := ["day"], filters := filters } { pageSize := 1 }
    (s.ask week.backend b (.page 1)).1.map (·.rows) = .ok [["Thu"]]
      ∧ (s.ask week.backend b (.page 7)).1.map (·.rows) = .ok [] := by
  intro s filters b
  have rows : (s.ask week.backend b .all).1.map (·.rows) = .ok [["Tue"], ["Thu"]] := by decide +kernel
  cases ran : (s.ask week.backend b .all).1 with
  | error fault => simp [ran, Except.map] at rows
  | ok all =>
      rw [ran] at rows
      have paged (number : Nat) := pages_as_in_memory rfl rfl { pageSize := 1 } s s ran number
      obtain ⟨header, left, rectangular⟩ := all
      obtain rfl : left = [["Tue"], ["Thu"]] := Except.ok.inj rows
      constructor
      · rw [paged 1, if_pos (by decide)]
        rfl
      · rw [paged 7, if_pos (by decide)]
        rfl

/-- A page far behind the last one is refused, although in memory it would be a page without rows. -/
theorem week_page_refused :
    let s : Session Unit Bool := ⟨(), none, []⟩
    let b : QueryBuilder := { table := "week", fields := ["day"] }
    (s.ask week.backend b .all).1.map (·.rows) = .ok week.dataset.sheet.rows
      ∧ (week.dataset.sheet.page (10 ^ 18) 10).rows = []
      ∧ (s.ask week.backend b (.page (10 ^ 18))).1.map (·.rows)
        = .error (.execution (.refused .countMismatch)) := by
  decide +kernel

end Engine

end Datasheet.Sql
