import Datasheet.Log.Event
import Datasheet.Proofs.Delimited.Bytes
import Datasheet.Proofs.Text.Pieces
import Datasheet.Proofs.Text.Trimming

/-! # Log lines read back

The line of an entry is read back as that entry, whatever its message says, as long as its target has no colon: a line
is cut at its first colon. So a target with a colon is read up to it, and what stands behind it is taken for a part of
the message. Lines that are written in one go are read one by one.
-/

namespace Datasheet.Log

open Text

/-! ## The parts of a line -/

theorem splitOnce?_append {α : Type} [DecidableEq α] {mark : α} {front : List α} (free : mark ∉ front) (back : List α) :
    splitOnce? mark (front ++ mark :: back) = some (front, back) := by
  induction front with
  | nil => simp [splitOnce?]
  | cons c front ih =>
      obtain ⟨other, free⟩ := not_or.1 (mt List.mem_cons.2 free)
      rw [List.cons_append, splitOnce?, if_neg (Ne.symm other), ih free]
      rfl

theorem Level.read?_name (level : Level) : read? level.name.toList = some level := by
  cases level <;> decide

theorem Level.solid_name (level : Level) : ∀ c ∈ level.name.toList, isBlank c = false := by
  cases level <;> simp [name, isBlank]

theorem Level.name_ne_nil (level : Level) : level.name.toList ≠ [] := by
  cases level <;> decide

theorem readLevel_name (level : Level) (rest : List Char) :
    readLevel (level.name.toList ++ ' ' :: rest) = (level, trimStart rest) := by
  have free : ' ' ∉ level.name.toList := fun member => absurd (level.solid_name ' ' member) (by decide)
  simp only [readLevel, splitOnce?_append free, level.read?_name]

theorem readTarget_word {target rest : List Char} (nonempty : target ≠ []) (solid : ' ' ∉ target) (free : ':' ∉ target) :
    readTarget (target ++ ':' :: rest) = (String.ofList target, String.ofList (trim rest)) := by
  simp [readTarget, splitOnce?_append free, nonempty, solid]

theorem readTarget_colon (rest : List Char) : readTarget (':' :: rest) = ("general", String.ofList (':' :: rest)) := by
  simp [readTarget, splitOnce?]

namespace Entry

/-- The parts of an entry can be told apart on a line: its target is a word, and its message is one line without blanks
    around it. -/
structure IsPlain (e : Entry) : Prop where
  named : e.target ≠ ""
  solid : ∀ c ∈ e.target.toList, isBlank c = false
  single : '\n' ∉ e.message.toList
  bare : trimmed e.message = e.message

/-- The line of an entry as it is, some spaces to the right. -/
def spelled (e : Entry) (indent : Nat) : String :=
  String.ofList (List.replicate indent ' ') ++ e.level.name ++ " " ++ e.target ++ ": " ++ e.message ++ "\n"

/-- What stands behind the target when the blanks around the line are gone. -/
def tail (e : Entry) : String := if e.message = "" then ":" else ": " ++ e.message

/-- What the line of an entry is taken for. -/
inductive ReadAs (e : Entry) : Entry → Prop where
  | whole (free : ':' ∉ e.target.toList) : ReadAs e e
  /-- The target ends at its first colon, and what follows goes to the message. -/
  | cut (before after : String) (named : before ≠ "") (free : ':' ∉ before.toList)
      (here : e.target = before ++ ":" ++ after) : ReadAs e ⟨e.level, before, after ++ e.tail⟩
  /-- Nothing stands before the first colon, and all of the target goes to the message. -/
  | general (after : String) (here : e.target = ":" ++ after) :
      ReadAs e ⟨e.level, "general", e.target ++ e.tail⟩

variable {e got : Entry}

theorem ReadAs.level (reads : e.ReadAs got) : got.level = e.level := by
  cases reads <;> rfl

theorem ReadAs.free (reads : e.ReadAs got) : ':' ∉ got.target.toList := by
  cases reads with
  | whole free => exact free
  | cut before after named free here => exact free
  | general after here => simp

/-- A line is taken for its entry exactly if the target has no colon. -/
theorem ReadAs.eq_iff (reads : e.ReadAs got) : got = e ↔ ':' ∉ e.target.toList := by
  constructor
  · rintro rfl
    exact reads.free
  · intro free
    cases reads with
    | whole _ => rfl
    | cut before after named _ here => exact absurd (by simp [here]) free
    | general after here => exact absurd (by simp [here]) free

/-! ## One line -/

/-- The characters of a line without the blanks around it. -/
def body (e : Entry) : List Char := e.level.name.toList ++ ' ' :: (e.target.toList ++ e.tail.toList)

theorem toList_tail (e : Entry) : e.tail.toList = ':' :: if e.message = "" then [] else ' ' :: e.message.toList := by
  unfold tail
  split
  · rfl
  · simp

/-- Where the message is empty, the line ends with the space that stands in front of it. -/
theorem exists_toList_spelled (e : Entry) (indent : Nat) : ∃ gap, (∀ c ∈ gap, c = ' ')
    ∧ (e.spelled indent).toList = List.replicate indent ' ' ++ (e.body ++ gap) ++ ['\n'] := by
  by_cases empty : e.message = ""
  · exact ⟨[' '], by simp, by simp [spelled, body, toList_tail, empty]⟩
  · exact ⟨[], by simp, by simp [spelled, body, toList_tail, empty]⟩

theorem IsPlain.endsSolid_tail (plain : e.IsPlain) : EndsSolid e.tail.toList := by
  rw [toList_tail]
  split
  · exact ⟨[], ':', rfl, by decide⟩
  next filled =>
      have ends := (endsSolid_of_trimmed plain.bare).resolve_left filled
      exact ends.append [':', ' ']

theorem IsPlain.single_body (plain : e.IsPlain) : '\n' ∉ e.body := by
  have level : '\n' ∉ e.level.name.toList := fun member => absurd (e.level.solid_name _ member) (by decide)
  have target : '\n' ∉ e.target.toList := fun member => absurd (plain.solid _ member) (by decide)
  have tail : '\n' ∉ e.tail.toList := by
    rw [toList_tail]
    split
    · decide
    · simp [plain.single]
  simp [body, level, target, tail]

theorem IsPlain.trim_line (plain : e.IsPlain) {gap : List Char} (blank : ∀ c ∈ gap, c = ' ') (indent : Nat) :
    trim (List.replicate indent ' ' ++ (e.body ++ gap)) = e.body := by
  obtain ⟨c, rest, name⟩ := List.exists_cons_of_ne_nil e.level.name_ne_nil
  have solid : isBlank c = false := e.level.solid_name c (by simp [name])
  have ends : EndsSolid (c :: rest ++ ' ' :: (e.target.toList ++ e.tail.toList)) :=
    .append _ (.append [' '] (.append _ plain.endsSolid_tail))
  rw [body, name]
  apply trim_between solid ends
  · intro b member
    rw [List.eq_of_mem_replicate member]
    decide
  · intro b member
    rw [blank b member]
    decide

theorem IsPlain.message_tail (plain : e.IsPlain) :
    String.ofList (trim (if e.message = "" then [] else ' ' :: e.message.toList)) = e.message := by
  split
  next empty =>
      rw [empty]
      rfl
  next => exact plain.bare

theorem IsPlain.trim_rest (plain : e.IsPlain) {after : List Char} (solid : ∀ c ∈ after, isBlank c = false) :
    trim (after ++ e.tail.toList) = after ++ e.tail.toList := by
  have ends := plain.endsSolid_tail.append after
  cases after with
  | nil =>
      rw [List.nil_append, toList_tail] at ends ⊢
      exact trim_of_solid (by decide) ends
  | cons c after => exact trim_of_solid (solid c List.mem_cons_self) ends

theorem IsPlain.readTarget_tail (plain : e.IsPlain) :
    ∃ got, e.ReadAs got ∧ readTarget (e.target.toList ++ e.tail.toList) = (got.target, got.message) := by
  have spaceless : ' ' ∉ e.target.toList := fun member => absurd (plain.solid ' ' member) (by decide)
  -- The first colon of the line is the one behind the target only if the target has none.
  by_cases free : ':' ∉ e.target.toList
  · refine ⟨e, .whole free, ?_⟩
    rw [toList_tail, readTarget_word (by simpa using plain.named) spaceless free, plain.message_tail,
      String.ofList_toList]
  · obtain ⟨before, after, here, free⟩ := List.eq_append_cons_of_mem (not_not.1 free)
    cases before with
    | nil =>
        have named : e.target = ":" ++ String.ofList after := by simp [← String.toList_inj, here]
        refine ⟨_, .general (String.ofList after) named, ?_⟩
        rw [here, List.nil_append, List.cons_append, readTarget_colon]
        simp [← String.toList_inj, here]
    | cons c before =>
        have named : e.target = String.ofList (c :: before) ++ ":" ++ String.ofList after := by
          simp [← String.toList_inj, here]
        have word : ' ' ∉ c :: before := fun member => spaceless (here ▸ List.mem_append_left _ member)
        have solid : ∀ d ∈ after, isBlank d = false := by
          intro d member
          apply plain.solid
          rw [here]
          exact List.mem_append_right _ (List.mem_cons_of_mem _ member)
        refine ⟨_, .cut (String.ofList (c :: before)) (String.ofList after) (by simp) (by simpa using free) named, ?_⟩
        rw [here, List.append_assoc, List.cons_append (a := ':'), readTarget_word (List.cons_ne_nil c before) word free,
          plain.trim_rest solid]
        simp

theorem IsPlain.readLevel_body (plain : e.IsPlain) : readLevel e.body = (e.level, e.target.toList ++ e.tail.toList) := by
  obtain ⟨c, rest, name⟩ := List.exists_cons_of_ne_nil (mt String.toList_eq_nil_iff.1 plain.named)
  rw [body, readLevel_name, name, List.cons_append, trimStart_of_solid _ (plain.solid c (by simp [name]))]

/-- The line of a plain entry is read as one entry. -/
theorem IsPlain.ofLine?_line (plain : e.IsPlain) {gap : List Char} (blank : ∀ c ∈ gap, c = ' ') (indent : Nat) :
    ∃ got, e.ReadAs got ∧ ofLine? (List.replicate indent ' ' ++ (e.body ++ gap)) = some got := by
  obtain ⟨got, reads, read⟩ := plain.readTarget_tail
  have filled : e.body.isEmpty = false := by simp [body]
  refine ⟨got, reads, ?_⟩
  simp only [ofLine?, plain.trim_line blank, filled, plain.readLevel_body, read, ← reads.level]
  rfl

end Entry

/-! ## Many lines -/

theorem entriesOf_append_break {line : List Char} (single : '\n' ∉ line) (rest : List Char) :
    entriesOf (line ++ '\n' :: rest) = (Entry.ofLine? line).toList ++ entriesOf rest := by
  have cut : splitWhen (· == '\n') (line ++ '\n' :: rest) = line :: splitWhen (· == '\n') rest := by
    rw [splitWhen_eq_splitOnP, splitWhen_eq_splitOnP]
    apply List.splitOnP_append_cons_of_forall_mem
    · intro c member
      simpa using fun here : c = '\n' => single (here ▸ member)
    · rfl
  rw [entriesOf, cut, List.filterMap_cons]
  cases Entry.ofLine? line <;> rfl

/-- The text of many lines, each as far to the right as its number says. -/
def Entry.spelledAll (lines : List (Entry × Nat)) : String := String.join (lines.map fun (e, indent) => e.spelled indent)

/-- Of the lines of plain entries each is read as one entry. -/
theorem readAs_entriesOf {lines : List (Entry × Nat)} (plain : ∀ line ∈ lines, line.1.IsPlain) :
    List.Forall₂ Entry.ReadAs (lines.map (·.1)) (entriesOf (Entry.spelledAll lines).toList) := by
  induction lines with
  | nil => exact .nil
  | cons line lines ih =>
      obtain ⟨e, indent⟩ := line
      obtain ⟨first, plain⟩ := List.forall_mem_cons.1 plain
      obtain ⟨gap, blank, text⟩ := e.exists_toList_spelled indent
      obtain ⟨got, reads, read⟩ := first.ofLine?_line blank indent
      have single : '\n' ∉ List.replicate indent ' ' ++ (e.body ++ gap) := by
        have inGap : '\n' ∉ gap := fun member => absurd (blank _ member) (by decide)
        simp [first.single_body, inGap]
      have cut : (Entry.spelledAll ((e, indent) :: lines)).toList
          = (List.replicate indent ' ' ++ (e.body ++ gap)) ++ '\n' :: (Entry.spelledAll lines).toList := by
        simp [Entry.spelledAll, text]
      rw [cut, entriesOf_append_break single, read]
      exact .cons reads (ih plain)

theorem Entry.all_eq_iff {es read : List Entry} (reads : List.Forall₂ ReadAs es read) :
    read = es ↔ ∀ e ∈ es, ':' ∉ e.target.toList := by
  induction reads with
  | nil => simp
  | cons first _ ih => simp [first.eq_iff, ih]

/-! ## Events -/

/-- An entry with the control characters of its message written out. -/
def Entry.escaped (e : Entry) : Entry :=
  { e with message := String.ofList (e.message.toList.flatMap writeMessageChar) }

theorem Entry.line_eq_spelled (e : Entry) : e.line = e.escaped.spelled (5 - e.level.name.length) := by
  simp [line, spelled, escaped, ← String.toList_inj, String.length_toList]

/-- The message of an event is one line without blanks around it. -/
structure Event.IsPlain (event : Event) : Prop where
  single : '\n' ∉ event.entry.escaped.message.toList
  bare : trimmed event.entry.escaped.message = event.entry.escaped.message

theorem Event.target_solid (event : Event) :
    event.target ≠ "" ∧ ∀ c ∈ event.target.toList, isBlank c = false ∧ c ≠ ':' := by
  cases event <;> simp [target, isBlank]

theorem Event.IsPlain.entriesOf_line {event : Event} (plain : event.IsPlain) :
    entriesOf event.entry.line.toList = [event.entry.escaped] := by
  obtain ⟨named, solid⟩ := event.target_solid
  have entry : event.entry.escaped.IsPlain := ⟨named, fun c member => (solid c member).1, plain.single, plain.bare⟩
  have free : ':' ∉ event.entry.escaped.target.toList := fun member => (solid ':' member).2 rfl
  have reads := @readAs_entriesOf [(event.entry.escaped, 5 - event.level.name.length)] (by simpa using entry)
  have text : Entry.spelledAll [(event.entry.escaped, 5 - event.level.name.length)] = event.entry.line := by
    rw [Entry.line_eq_spelled]
    simp [Entry.spelledAll, Event.entry]
  rw [← text]
  exact (Entry.all_eq_iff reads).2 (by simpa using free)

/-! ## Writing to a ring -/

/-- The entries of encoded text; none if the bytes are not UTF-8. -/
def entriesOfBytes (bytes : List UInt8) : List Entry :=
  match String.fromUTF8? ⟨bytes.toArray⟩ with
  | some text => entriesOf text.toList
  | none => []

theorem entriesOfBytes_toUTF8 (text : String) : entriesOfBytes text.toUTF8.data.toList = entriesOf text.toList := by
  rw [entriesOfBytes, Delimited.fromUTF8?_toUTF8]

namespace Ring

theorem writeBytes_eq (r : Ring) (bytes : List UInt8) : r.writeBytes bytes = (entriesOfBytes bytes).foldl push r := by
  rw [writeBytes, entriesOfBytes]
  cases String.fromUTF8? ⟨bytes.toArray⟩ <;> rfl

/-- Events reach the ring as their entries, by way of their lines. -/
theorem writeEvents_eq (r : Ring) {events : List Event} (plain : ∀ event ∈ events, event.IsPlain) :
    r.writeEvents events = (events.map (·.entry.escaped)).foldl push r := by
  induction events generalizing r with
  | nil => rfl
  | cons event events ih =>
      obtain ⟨first, plain⟩ := List.forall_mem_cons.1 plain
      rw [writeEvents, List.foldl_cons, write, first.entriesOf_line, List.map_cons, List.foldl_cons]
      exact ih (r.push event.entry.escaped) plain

/-- The lines of entries, written in one go, push one entry each, in their order. It has the level of the line's entry, and
    is that entry exactly if the target has no colon: the line is cut at its first colon, so a target with a colon ends
    there and the rest of it goes to the message, and of a target that begins with one nothing is left. It makes no
    difference what the messages say, nor how far to the right the lines begin. No target of an event has a colon, so
    events are pushed as their entries. -/
theorem recovers_targets_without_colon (r : Ring) (lines : List (Entry × Nat)) (plain : ∀ line ∈ lines, line.1.IsPlain) :
    let read := entriesOf (Entry.spelledAll lines).toList
    r.writeBytes (Entry.spelledAll lines).toUTF8.data.toList = read.foldl push r
      ∧ List.Forall₂ Entry.ReadAs (lines.map (·.1)) read
      ∧ (read = lines.map (·.1) ↔ ∀ line ∈ lines, ':' ∉ line.1.target.toList)
      ∧ ∀ events : List Event, (∀ event ∈ events, event.IsPlain) →
        r.writeEvents events = (events.map (·.entry.escaped)).foldl push r := by
  intro read
  have reads := readAs_entriesOf plain
  refine ⟨?_, reads, ?_, fun events single => r.writeEvents_eq single⟩
  · rw [writeBytes_eq, entriesOfBytes_toUTF8]
  · rw [Entry.all_eq_iff reads, List.forall_mem_map]

/-- Lines with colons, names of levels and nothing in their messages. -/
def awkwardLines : List (Entry × Nat) :=
  [(⟨.debug, "sql", "Generated: SELECT 'a::b' FROM t"⟩, 0), (⟨.warn, "import", ""⟩, 1), (⟨.info, "query", "ERROR sql: 5"⟩, 1)]

theorem recovers_targets_without_colon_awkwardLines : (∀ line ∈ awkwardLines, line.1.IsPlain)
    ∧ ((make 1000).writeBytes (Entry.spelledAll awkwardLines).toUTF8.data.toList).entries = awkwardLines.map (·.1)
    ∧ ((make 1).writeEvents [.connectionLost, .queryGenerated "SELECT '\x07a::b' FROM t"]).entries
      = [⟨.debug, "sql", "Generated: SELECT '\\x07a::b' FROM t"⟩] := by
  have plain : ∀ line ∈ awkwardLines, line.1.IsPlain := by
    simp only [awkwardLines, List.forall_mem_cons]
    exact ⟨⟨by decide, by simp [isBlank], by decide, by decide⟩, ⟨by decide, by simp [isBlank], by decide, by decide⟩,
      ⟨by decide, by simp [isBlank], by decide, by decide⟩, by simp⟩
  obtain ⟨written, _, whole, _⟩ := recovers_targets_without_colon (make 1000) awkwardLines plain
  obtain ⟨_, _, _, events⟩ := recovers_targets_without_colon (make 1) awkwardLines plain
  refine ⟨plain, ?_, ?_⟩
  · rw [written, whole.2 (by decide)]
    rfl
  · rw [events _ (by simp only [List.forall_mem_cons]; exact ⟨⟨by decide, by decide⟩, ⟨by decide, by decide⟩, by simp⟩)]
    decide

/-- The line of an entry whose target is the path of a module is read as another entry: the target ends at the first colon
    of the path. -/
theorem module_path_cut_at_colon :
    let e : Entry := ⟨.info, "shop::orders", "ready"⟩
    e.IsPlain ∧ e.spelled 0 = "INFO shop::orders: ready\n"
      ∧ (make 1000).writeBytes (e.spelled 0).toUTF8.data.toList = (make 1000).push ⟨.info, "shop", ":orders: ready"⟩
      ∧ (make 1000).writeBytes (e.spelled 0).toUTF8.data.toList ≠ (make 1000).push e := by
  intro e
  have written : (make 1000).writeBytes (e.spelled 0).toUTF8.data.toList
      = (make 1000).push ⟨.info, "shop", ":orders: ready"⟩ := by
    rw [writeBytes_eq, entriesOfBytes_toUTF8]
    decide
  refine ⟨⟨by decide, by simp [isBlank, e], by decide, by decide⟩, by decide, written, ?_⟩
  rw [written]
  decide

end Ring

end Datasheet.Log
