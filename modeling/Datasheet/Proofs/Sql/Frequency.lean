import Mathlib.Data.List.Count
import Mathlib.Data.String.Basic
import Datasheet.Proofs.Sql.Answering

/-! # Values by how often they occur

The most or least frequent values of a field are found by two queries: the first one answers how often such a
value occurs, the second one lists the values that occur so often. Both group the filled cells of the rows that
pass the filters, so that together they answer all values with the extreme number of rows, in ascending order.
-/

namespace Datasheet.Sql

/-- The text is one of the texts that occur most, or least, often. -/
def FrequencyOrder.IsExtreme (order : FrequencyOrder) (texts : List String) (v : String) : Prop :=
  v ∈ texts ∧ ∀ w ∈ texts,
    match order with
    | .most => texts.count w ≤ texts.count v
    | .least => texts.count v ≤ texts.count w

instance (order : FrequencyOrder) (texts : List String) (v : String) : Decidable (order.IsExtreme texts v) :=
  match order with
  | .most => inferInstanceAs (Decidable (v ∈ texts ∧ ∀ w ∈ texts, texts.count w ≤ texts.count v))
  | .least => inferInstanceAs (Decidable (v ∈ texts ∧ ∀ w ∈ texts, texts.count v ≤ texts.count w))

/-! ## Groups of texts -/

theorem firstOccurrences_text (found texts : List String) : ∃ distinct : List String,
    firstOccurrences (found.map .text) (texts.map .text) = distinct.map .text ∧ distinct.Nodup
      ∧ ∀ v, v ∈ distinct ↔ v ∈ texts ∧ v ∉ found := by
  induction texts generalizing found with
  | nil => exact ⟨[], by simp [firstOccurrences]⟩
  | cons v texts ih =>
      have seen : (found.map Value.text).contains (.text v) = found.contains v := by
        rw [Bool.eq_iff_iff]
        simp
      rw [List.map_cons, firstOccurrences, seen]
      by_cases old : v ∈ found
      · obtain ⟨distinct, same, nodup, members⟩ := ih found
        refine ⟨distinct, by simpa [old] using same, nodup, fun w => ?_⟩
        rw [members, List.mem_cons]
        constructor
        · rintro ⟨member, fresh⟩
          exact ⟨.inr member, fresh⟩
        · rintro ⟨rfl | member, fresh⟩
          · exact absurd old fresh
          · exact ⟨member, fresh⟩
      · obtain ⟨distinct, same, nodup, members⟩ := ih (v :: found)
        refine ⟨v :: distinct, by simpa [old] using same, List.nodup_cons.2 ⟨?_, nodup⟩, fun w => ?_⟩
        · intro member
          exact ((members v).1 member).2 List.mem_cons_self
        · rw [List.mem_cons, members, List.mem_cons, List.mem_cons]
          constructor
          · rintro (rfl | ⟨member, fresh⟩)
            · exact ⟨.inl rfl, old⟩
            · exact ⟨.inr member, fun known => fresh (.inr known)⟩
          · rintro ⟨rfl | member, fresh⟩
            · exact .inl rfl
            · by_cases same : w = v
              · exact .inl same
              · exact .inr ⟨member, fun known => known.elim same fresh⟩

theorem isAtMost_text (v w : String) : Value.isAtMost (.text v) (.text w) = decide (v ≤ w) := by
  change (compare v w != .gt) = decide (v ≤ w)
  rw [Bool.eq_iff_iff, bne_iff_ne, decide_eq_true_eq, Ne, compare_gt_iff_gt, not_lt]

/-- The groups of texts, in strictly ascending order of the texts. -/
theorem frequencies_text (texts : List String) : ∃ sorted : List String,
    frequencies (texts.map .text) = sorted.map (fun v => (.text v, texts.count v))
      ∧ sorted.Pairwise (· < ·) ∧ ∀ v, v ∈ sorted ↔ v ∈ texts := by
  obtain ⟨distinct, same, nodup, members⟩ := firstOccurrences_text [] texts
  have perm := List.mergeSort_perm distinct fun v w => decide (v ≤ w)
  have ascending : (distinct.mergeSort fun v w => decide (v ≤ w)).Pairwise fun v w => decide (v ≤ w) = true :=
    List.pairwise_mergeSort (by simpa using fun a b c => @le_trans String _ a b c) (by simpa using le_total) distinct
  refine ⟨distinct.mergeSort fun v w => decide (v ≤ w), ?_, ?_, ?_⟩
  · have moved := @List.map_mergeSort _ _ (fun v w : String => decide (v ≤ w)) Value.isAtMost Value.text distinct
      fun v _ w _ => (isAtMost_text v w).symm
    rw [List.map_nil] at same
    rw [frequencies, same, ← moved, List.map_map]
    refine List.map_congr_left fun v _ => ?_
    have injective : Function.Injective Value.text := fun _ _ same => Value.text.inj same
    simp [List.count_map_of_injective _ _ injective]
  · have apart : (distinct.mergeSort fun v w => decide (v ≤ w)).Pairwise (· ≠ ·) := perm.nodup_iff.2 nodup
    exact (ascending.and apart).imp fun {v w} known => lt_of_le_of_ne (of_decide_eq_true known.1) known.2
  · intro v
    rw [perm.mem_iff, members]
    simp

/-! ## Ends of the ranking -/

/-- A count is no nearer to the end of the ranking than another one. -/
def FrequencyOrder.Yields (order : FrequencyOrder) (count best : Nat) : Prop :=
  match order with
  | .most => count ≤ best
  | .least => best ≤ count

theorem FrequencyOrder.Yields.refl (order : FrequencyOrder) (count : Nat) : order.Yields count count := by
  cases order <;> exact Nat.le_refl count

theorem FrequencyOrder.Yields.trans {order : FrequencyOrder} {count better best : Nat} (first : order.Yields count better)
    (second : order.Yields better best) : order.Yields count best := by
  cases order with
  | most => exact Nat.le_trans first second
  | least => exact Nat.le_trans second first

theorem FrequencyOrder.yields_preferred (order : FrequencyOrder) (group next : Value × Nat) :
    let chosen := if order.prefers next.2 group.2 then next else group
    chosen ∈ [group, next] ∧ order.Yields group.2 chosen.2 ∧ order.Yields next.2 chosen.2 := by
  cases preferred : order.prefers next.2 group.2 with
  | true =>
      refine ⟨by simp, ?_, Yields.refl order _⟩
      cases order with
      | most => simpa [prefers, Yields] using preferred
      | least => exact Nat.le_of_lt (by simpa [prefers] using preferred)
  | false =>
      refine ⟨by simp, Yields.refl order _, ?_⟩
      cases order with
      | most => exact Nat.le_of_lt (by simpa [prefers] using preferred)
      | least => simpa [prefers, Yields] using preferred

/-- No group is nearer to the end of the ranking than the one that is picked. -/
theorem FrequencyOrder.yields_best (order : FrequencyOrder) (group : Value × Nat) (groups : List (Value × Nat)) :
    let best := groups.foldl (fun best g => if order.prefers g.2 best.2 then g else best) group
    best ∈ group :: groups ∧ ∀ g ∈ group :: groups, order.Yields g.2 best.2 := by
  induction groups generalizing group with
  | nil => exact ⟨List.mem_singleton_self group, List.forall_mem_singleton.2 (Yields.refl order group.2)⟩
  | cons next groups ih =>
      obtain ⟨choice, old, new⟩ := order.yields_preferred group next
      obtain ⟨member, extreme⟩ := ih (if order.prefers next.2 group.2 then next else group)
      have chosen := extreme _ List.mem_cons_self
      refine ⟨?_, List.forall_mem_cons.2 ⟨old.trans chosen, List.forall_mem_cons.2 ⟨new.trans chosen, ?_⟩⟩⟩
      · rcases List.mem_cons.1 member with here | later
        · exact List.mem_append_left groups (here ▸ choice)
        · exact List.mem_append_right [group, next] later
      · exact fun g inside => extreme g (List.mem_cons_of_mem _ inside)

/-! ## Counts as text -/

theorem readCount?_repr {n : Nat} (fits : n < 2 ^ 64) : Log.readCount? n.repr.toList = some n := by
  have digits : ∀ c ∈ Nat.toDigits 10 n, c.isDigit = true :=
    fun c member => Nat.isDigit_of_mem_toDigits (by decide) (by decide) member
  have text : n.repr.toList = Nat.toDigits 10 n := by simp [Nat.repr]
  have plain : ((Nat.toDigits 10 n).isEmpty || (Nat.toDigits 10 n).any (!·.isDigit)) = false := by
    simpa [Nat.toDigits_ne_nil] using digits
  rw [text, Log.readCount?]
  · simp only [plain, Bool.false_eq_true, if_false, Decimal.digitsValue_toDigits]
    exact if_pos fits
  · intro rest same
    exact absurd (digits '+' (by simp [same])) (by decide)

/-! ## The two queries -/

namespace Engine

variable {e : Engine} {b : QueryBuilder} {field : String}

theorem Checked.sheet_frequencies (checked : e.Checked) (column : e.IsPlainColumn field) (pick : FrequencyPick)
    (kept : List Row) : (Answer.frequencies (Name.ofText field) pick).sheet e.table kept
      = Sheet.ofRows [field, "freq"] ((pick.pick (frequencies ((kept.map (e.cell field)).map .text))).map
          fun (v, count) => [v.toText, count.repr]) := by
  have values : (kept.map fun row => e.table.value row (Name.ofText field)) = (kept.map (e.cell field)).map .text := by
    rw [List.map_map]
    exact List.map_congr_left fun row _ => checked.value_ofText column row
  simp only [Answer.sheet, sheetOf, checked.heading_ofText column, values, List.map_map]
  rfl

variable (b field) in
/-- The tests of the rows whose values are counted. -/
def countedTests : List Test := QueryBuilder.filled field :: b.filters.flatMap b.tests

/-- Both queries of the protocol are answered from the rows that pass the filters and have a filled cell. -/
theorem reply_frequencies (connected : e.connect = .ok true) (plain : e.HasPlainColumns) (based : b.IsOver e)
    (known : field ∈ b.fields) (correct : ∀ f ∈ b.filters, b.checkFilter f = .ok ())
    (clean : ∀ f ∈ b.filters, NulFree (QueryBuilder.literalOf f)) :
    (∀ order, e.reply b (.frequency field order)
        = e.plainAnswer (.frequencies (Name.ofText field) (.first order)) (countedTests b field))
      ∧ ∀ count, e.reply b (.withFrequency field count)
        = e.plainAnswer (.frequencies (Name.ofText field) (.exactly count)) (countedTests b field) := by
  have column : [field] ⊆ e.dataset.sheet.header := List.cons_subset.2 ⟨based.fields known, List.nil_subset _⟩
  have checkedField := QueryBuilder.checkField_eq_ok known
  have few : 1 ≤ columnLimit := by decide
  constructor
  · intro order
    have outlined := (QueryBuilder.Outlines.frequency order checkedField).outline
    exact reply_plain connected plain based outlined correct clean column few rfl rfl
  · intro count
    have outlined := (QueryBuilder.Outlines.withFrequency count checkedField).outline
    exact reply_plain connected plain based outlined correct clean column few rfl rfl

end Engine

theorem FrequencyOrder.isExtreme_iff {order : FrequencyOrder} {texts : List String} {v w : String}
    (extreme : order.IsExtreme texts v) :
    order.IsExtreme texts w ↔ w ∈ texts ∧ texts.count w = texts.count v := by
  obtain ⟨member, all⟩ := extreme
  constructor
  · rintro ⟨member', all'⟩
    refine ⟨member', ?_⟩
    have first := all w member'
    have second := all' v member
    cases order with
    | most => exact Nat.le_antisymm first second
    | least => exact Nat.le_antisymm second first
  · rintro ⟨member', same⟩
    refine ⟨member', ?_⟩
    cases order with
    | most => exact fun u inside => same ▸ all u inside
    | least => exact fun u inside => same ▸ all u inside

/-- The first query picks a text with an extreme count, if there is any text. -/
theorem pick_first (order : FrequencyOrder) (texts : List String) :
    (texts = [] ∧ (FrequencyPick.first order).pick (frequencies (texts.map .text)) = [])
      ∨ ∃ v, order.IsExtreme texts v
        ∧ (FrequencyPick.first order).pick (frequencies (texts.map .text)) = [(.text v, texts.count v)] := by
  obtain ⟨sorted, groups, _, members⟩ := frequencies_text texts
  rw [groups]
  cases sorted with
  | nil =>
      left
      refine ⟨?_, rfl⟩
      rw [List.eq_nil_iff_forall_not_mem]
      exact fun v member => absurd ((members v).2 member) List.not_mem_nil
  | cons first sorted =>
      right
      obtain ⟨member, extreme⟩ := order.yields_best (.text first, texts.count first)
        (sorted.map fun v => (.text v, texts.count v))
      obtain ⟨v, inside, same⟩ : ∃ v ∈ first :: sorted, (Value.text v, texts.count v) = _ := List.mem_map.1 member
      refine ⟨v, ⟨(members v).1 inside, fun w known => ?_⟩, by rw [List.map_cons, FrequencyPick.pick, same]⟩
      have listed : (Value.text w, texts.count w) ∈ (first :: sorted).map fun v => (Value.text v, texts.count v) :=
        List.mem_map.2 ⟨w, (members w).2 known, rfl⟩
      have further := extreme _ listed
      rw [← same] at further
      exact further

/-- The second query lists the texts with an extreme count in ascending order. -/
theorem pick_exactly {order : FrequencyOrder} {texts : List String} {v : String} (extreme : order.IsExtreme texts v) :
    ∃ values : List String, values.Pairwise (· < ·) ∧ (∀ w, w ∈ values ↔ order.IsExtreme texts w)
      ∧ (FrequencyPick.exactly (texts.count v)).pick (frequencies (texts.map .text))
        = values.map fun w => (.text w, texts.count w) := by
  obtain ⟨sorted, groups, ascending, members⟩ := frequencies_text texts
  refine ⟨sorted.filter fun w => texts.count w == texts.count v, ascending.filter _, fun w => ?_, ?_⟩
  · rw [List.mem_filter, members, order.isExtreme_iff extreme, beq_iff_eq]
  · rw [groups, FrequencyPick.pick, List.filter_map]
    rfl

/-! ## The protocol -/

/-- The sheet that lists texts with their counts. -/
def countSheet (field : String) (texts values : List String) : Sheet :=
  ⟨[field, "freq"], values.map fun v => [v, (texts.count v).repr], by simp⟩

namespace Engine

variable {e : Engine} {b : QueryBuilder} {field : String}

theorem Checked.sheet_pick (checked : e.Checked) (column : e.IsPlainColumn field) {pick : FrequencyPick}
    {kept : List Row} {texts values : List String} (counted : kept.map (e.cell field) = texts)
    (picked : pick.pick (frequencies (texts.map .text)) = values.map fun v => (.text v, texts.count v)) :
    (Answer.frequencies (Name.ofText field) pick).sheet e.table kept = .ok (countSheet field texts values) := by
  rw [checked.sheet_frequencies column, counted, picked, List.map_map]
  exact Sheet.ofRows_eq_ok (by simp)

theorem frequent_eq_blank {s : Session Unit Bool} {order : FrequencyOrder} {first : Sheet}
    (asked : (s.ask e.backend b (.frequency field order)).1 = .ok first) (rowless : first.rows = []) :
    (s.frequent e.backend b field order).1 = .ok (Sheet.blank first.header) := by
  rw [Session.frequent]
  split
  next found =>
      rw [found] at asked
      exact absurd asked (by simp)
  next found =>
      rw [found] at asked
      obtain rfl := Except.ok.inj asked
      simp [rowless]

theorem frequent_eq_ask (connected : e.connect = .ok true) {s : Session Unit Bool} {order : FrequencyOrder}
    {first : Sheet} (asked : (s.ask e.backend b (.frequency field order)).1 = .ok first) {v : String} {count : Nat}
    (row : first.rows = [[v, count.repr]]) (fits : count < 2 ^ 64) :
    (s.frequent e.backend b field order).1 = e.reply b (.withFrequency field count) := by
  rw [Session.frequent]
  split
  next found =>
      rw [found] at asked
      exact absurd asked (by simp)
  next found =>
      rw [found] at asked
      obtain rfl := Except.ok.inj asked
      simp only [row, List.head?_cons, List.getD_cons_succ, List.getD_cons_zero, readCount?_repr fits]
      exact ask_backend connected _ b _

theorem frequent_eq_error {s : Session Unit Bool} {order : FrequencyOrder} {fault : Error}
    (asked : (s.ask e.backend b (.frequency field order)).1 = .error fault) :
    (s.frequent e.backend b field order).1 = .error fault := by
  rw [Session.frequent]
  split
  next found =>
      rw [found] at asked
      exact asked
  next found =>
      rw [found] at asked
      exact absurd asked (by simp)

theorem counted_of_all (connected : e.connect = .ok true) (plain : e.HasPlainColumns) (based : b.IsOver e)
    (known : field ∈ b.fields) {all : Sheet} (ran : e.reply b .all = .ok all) :
    (∀ f ∈ b.filters, b.checkFilter f = .ok ()) ∧ (∀ f ∈ b.filters, NulFree (QueryBuilder.literalOf f))
      ∧ e.Testable (countedTests b field)
      ∧ (e.passing (countedTests b field)).map (e.cell field) = (all.cellsOf field).filter (· ≠ "") := by
  have checked := checked_of_connect connected
  have column := plain.isPlainColumn (based.fields known)
  obtain ⟨correct, clean, testable, shown⟩ := shown_of_all connected plain based ran
  obtain ⟨testable', passed⟩ := checked.passing_filled column testable
  refine ⟨correct, clean, testable', ?_⟩
  rw [shown, cellsOf_sheetOfRows _ column.1, countedTests, passed, List.filter_map]
  rfl

theorem count_map_passing_lt (fits : e.dataset.sheet.rowCount < 2 ^ 64) (tests : List Test) (v : String) :
    ((e.passing tests).map (e.cell field)).count v < 2 ^ 64 := by
  refine Nat.lt_of_le_of_lt (Nat.le_trans List.count_le_length ?_) fits
  rw [List.length_map, Sheet.rowCount, ← map_cells_rows, List.length_map]
  exact List.length_filter_le _ _

/-- The frequency protocol answers all values that occur most, or least, often in the filled cells of the rows that
    the filters let pass, in ascending order and with their counts, and so does its second query for any value that
    the first one could have picked. It is refused only if the conditions of its queries are nested too deeply. -/
theorem frequent_answers_ties (e : Engine) (b : QueryBuilder) (field : String) (order : FrequencyOrder)
    (s : Session Unit Bool) (all : Sheet) (connected : e.connect = .ok true) (plain : e.HasPlainColumns)
    (fits : e.dataset.sheet.rowCount < 2 ^ 64) (based : b.IsOver e) (known : field ∈ b.fields)
    (ran : (s.ask e.backend b .all).1 = .ok all) :
    let texts := (all.cellsOf field).filter (· ≠ "")
    if b.depth [QueryBuilder.filled field] ≤ heightLimit then
      ∃ answer : Sheet, (s.frequent e.backend b field order).1 = .ok answer ∧ answer.header = [field, "freq"]
        ∧ (∃ values : List String, values.Pairwise (· < ·) ∧ (∀ v, v ∈ values ↔ order.IsExtreme texts v)
          ∧ answer.rows = values.map fun v => [v, (texts.count v).repr])
        ∧ ∀ v, order.IsExtreme texts v →
          ∀ s' : Session Unit Bool, (s'.ask e.backend b (.withFrequency field (texts.count v))).1 = .ok answer
    else (s.frequent e.backend b field order).1 = .error (.execution (.refused .tooDeep)) := by
  intro texts
  have checked := checked_of_connect connected
  have column := plain.isPlainColumn (based.fields known)
  rw [ask_backend connected] at ran
  obtain ⟨correct, clean, testable, counted⟩ := counted_of_all connected plain based known ran
  change _ = texts at counted
  have few (v : String) : texts.count v < 2 ^ 64 := counted ▸ count_map_passing_lt fits _ v
  obtain ⟨firstReply, secondReply⟩ := reply_frequencies connected plain based known correct clean
  split
  next shallow =>
      have shallow : joinedHeight ((countedTests b field).map Test.height) ≤ heightLimit := shallow
      -- All texts with an extreme count have the same count, so it does not matter which one the first query picks.
      have second {v : String} (extreme : order.IsExtreme texts v) : ∃ values : List String,
          values.Pairwise (· < ·) ∧ (∀ w, w ∈ values ↔ order.IsExtreme texts w)
            ∧ ∀ w, order.IsExtreme texts w →
              e.reply b (.withFrequency field (texts.count w)) = .ok (countSheet field texts values) := by
        obtain ⟨values, ascending, members, picked⟩ := pick_exactly extreme
        refine ⟨values, ascending, members, fun w extreme' => ?_⟩
        rw [((order.isExtreme_iff extreme).1 extreme').2, secondReply, plainAnswer_of_testable shallow testable,
          checked.sheet_pick column counted picked]
      have first {values : List String} (picked : (FrequencyPick.first order).pick (frequencies (texts.map .text))
          = values.map fun v => (.text v, texts.count v)) :
          (s.ask e.backend b (.frequency field order)).1 = .ok (countSheet field texts values) := by
        rw [ask_backend connected, firstReply, plainAnswer_of_testable shallow testable,
          checked.sheet_pick column counted picked]
      rcases pick_first order texts with ⟨rowless, picked⟩ | ⟨v, extreme, picked⟩
      · have never : ∀ v, ¬order.IsExtreme texts v := fun v extreme => by simpa [rowless] using extreme.1
        refine ⟨Sheet.blank [field, "freq"], frequent_eq_blank (@first [] picked) rfl, rfl, ?_, ?_⟩
        · exact ⟨[], List.Pairwise.nil, by simpa using never, rfl⟩
        · exact fun v extreme => absurd extreme (never v)
      · obtain ⟨values, ascending, members, answers⟩ := second extreme
        refine ⟨countSheet field texts values, ?_, rfl, ⟨values, ascending, members, rfl⟩, ?_⟩
        · rw [frequent_eq_ask connected (@first [v] picked) rfl (few v), answers v extreme]
        · intro w extreme' s'
          rw [ask_backend connected, answers w extreme']
  next deep =>
      have first : (s.ask e.backend b (.frequency field order)).1 = .error (.execution (.refused .tooDeep)) := by
        rw [ask_backend connected, firstReply, plainAnswer]
        exact if_neg deep
      exact frequent_eq_error first

/-- A table of towns, some of them without a name. -/
def towns : Engine where
  tableName := "towns"
  dataset := ⟨"towns", ⟨["town", "size"], [["Ulm", "1"], ["Kiel", "2"], ["", "3"], ["Bonn", "4"], ["Ulm", "5"],
    ["Bonn", "6"], ["", "7"], ["", "8"], ["Kiel", "9"]], by decide⟩⟩

/-- Two of the towns occur twice where the size is not 9, so both are answered. -/
theorem frequent_answers_ties_towns :
    let b : QueryBuilder := { table := "towns", fields := ["town", "size"], filters := [⟨"size", .text .different, "9"⟩] }
    let texts := ["Ulm", "Kiel", "Bonn", "Ulm", "Bonn"]
    ∃ answer : Sheet, ((⟨(), none, []⟩ : Session Unit Bool).frequent towns.backend b "town" .most).1 = .ok answer
      ∧ ∃ values : List String, values.Pairwise (· < ·) ∧ (∀ v, v ∈ values ↔ FrequencyOrder.most.IsExtreme texts v)
        ∧ answer.rows = values.map fun v => [v, (texts.count v).repr] := by
  have run := frequent_answers_ties towns
    { table := "towns", fields := ["town", "size"], filters := [⟨"size", .text .different, "9"⟩] } "town" .most
    ⟨(), none, []⟩ ⟨["town", "size"], [["Ulm", "1"], ["Kiel", "2"], ["", "3"], ["Bonn", "4"], ["Ulm", "5"],
      ["Bonn", "6"], ["", "7"], ["", "8"]], by decide⟩ rfl (by decide) (by decide) ⟨rfl, by decide, by decide⟩
    (by decide) (by rfl)
  rw [if_pos (by decide)] at run
  obtain ⟨answer, asked, _, values, _⟩ := run
  exact ⟨answer, asked, values⟩

end Engine

end Datasheet.Sql
