import Datasheet.Lexicon.Json
import Datasheet.Proofs.Json.Printing
import Datasheet.Proofs.Text.Collections
import Mathlib.Data.List.Forall2

/-! # Exchanging lexicons as JSON

A lexicon is a map of maps: the order in which its fields and languages are listed carries no meaning. Any listing of
it is written as a text that reads back as a lexicon with the same wordings, whatever the names are made of. That names
and members stand once is kept by every step that builds a lexicon.
-/

namespace Datasheet

open Json

/-! ## Maps and their listings -/

/-- Each language is listed once, and synonyms are sets. -/
structure Wording.IsProper (w : Wording) : Prop where
  names : (Dictionary.names w.readableNames).Nodup
  languages : (Dictionary.names w.synonyms).Nodup
  sets : ∀ entry ∈ w.synonyms, StringSet.IsAscending entry.2

/-- Each field is listed once, with a proper wording. -/
structure Lexicon.IsProper (l : Lexicon) : Prop where
  fields : (Dictionary.names l.entries).Nodup
  wordings : ∀ entry ∈ l.entries, entry.2.IsProper

/-- A wording is made step by step, or it has been read. -/
inductive Wording.IsBuilt : Wording → Prop
  | empty : IsBuilt {}
  | withReadableName {w : Wording} (language name : String) (built : IsBuilt w) :
      IsBuilt (w.withReadableName language name)
  | withSynonym {w : Wording} (language synonym : String) (built : IsBuilt w) : IsBuilt (w.withSynonym language synonym)
  | withKey {w : Wording} (key : Bool) (built : IsBuilt w) : IsBuilt (w.withKey key)
  | ofJson {text : String} {l : Lexicon} {field : String} {w : Wording} (read : Lexicon.ofJson text = .ok l)
      (known : l.get? field = some w) : IsBuilt w

/-- A lexicon is made for columns or read, and fields are put into it. -/
inductive Lexicon.IsBuilt : Lexicon → Prop
  | empty : IsBuilt {}
  | ofColumns (columns languages : List String) : IsBuilt (Lexicon.ofColumns columns languages)
  | ofJson {text : String} {l : Lexicon} (read : Lexicon.ofJson text = .ok l) : IsBuilt l
  | put {l : Lexicon} {w : Wording} (field : String) (built : IsBuilt l) (named : w.IsBuilt) : IsBuilt (l.put field w)

/-- `v` lists the languages of `w` in some order. -/
structure Wording.Lists (v w : Wording) : Prop where
  readableNames : v.readableNames.Perm w.readableNames
  synonyms : v.synonyms.Perm w.synonyms
  key : v.key = w.key

/-- The fields of both are the same in the same order, and each wording of the first lists that of the second. -/
def Lexicon.ListsEach (entries others : Dictionary Wording) : Prop :=
  List.Forall₂ (fun entry other => entry.1 = other.1 ∧ entry.2.Lists other.2) entries others

/-- `listing` lists the fields of `l` in some order, and each wording's languages in some order. -/
def Lexicon.Lists (listing l : Lexicon) : Prop :=
  ∃ entries, ListsEach listing.entries entries ∧ entries.Perm l.entries

/-- Equal as maps from languages. -/
structure Wording.Equals (v w : Wording) : Prop where
  readableNames : ∀ language, Dictionary.get? language v.readableNames = Dictionary.get? language w.readableNames
  synonyms : ∀ language, Dictionary.get? language v.synonyms = Dictionary.get? language w.synonyms
  key : v.key = w.key

/-- Equal as maps from fields: both know the same fields, by equal wordings. -/
def Lexicon.Equals (l m : Lexicon) : Prop := ∀ field, Option.Rel Wording.Equals (l.get? field) (m.get? field)

namespace Wording

variable {v w : Wording}

theorem Lists.isProper (listed : v.Lists w) (proper : w.IsProper) : v.IsProper where
  names := (listed.readableNames.map _).nodup_iff.2 proper.names
  languages := (listed.synonyms.map _).nodup_iff.2 proper.languages
  sets entry member := proper.sets entry (listed.synonyms.mem_iff.1 member)

theorem Lists.equals (listed : v.Lists w) (proper : w.IsProper) : v.Equals w where
  readableNames := Dictionary.get?_of_perm (listed.isProper proper).names listed.readableNames
  synonyms := Dictionary.get?_of_perm (listed.isProper proper).languages listed.synonyms
  key := listed.key

end Wording

namespace Lexicon

variable {l listing : Lexicon} {entries others : Dictionary Wording}

theorem ListsEach.names (listed : ListsEach entries others) : Dictionary.names entries = Dictionary.names others := by
  induction listed with
  | nil => rfl
  | cons here _ ih => exact congrArg₂ List.cons here.1 ih

theorem ListsEach.isProper (listed : ListsEach entries others) (proper : ∀ entry ∈ others, entry.2.IsProper) :
    ∀ entry ∈ entries, entry.2.IsProper := by
  induction listed with
  | nil => exact proper
  | cons here _ ih =>
      obtain ⟨first, later⟩ := List.forall_mem_cons.1 proper
      exact List.forall_mem_cons.2 ⟨here.2.isProper first, ih later⟩

theorem ListsEach.equals (listed : ListsEach entries others) (proper : ∀ entry ∈ others, entry.2.IsProper)
    (field : String) : Option.Rel Wording.Equals (Dictionary.get? field entries) (Dictionary.get? field others) := by
  induction listed with
  | nil => exact .none
  | @cons entry other entries others here _ ih =>
      obtain ⟨first, later⟩ := List.forall_mem_cons.1 proper
      obtain ⟨name, v⟩ := entry
      obtain ⟨name', w⟩ := other
      obtain ⟨rfl, listed⟩ := here
      rw [Dictionary.get?_cons, Dictionary.get?_cons]
      split
      · exact .some (listed.equals first)
      · exact ih later

theorem Lists.isProper (listed : listing.Lists l) (proper : l.IsProper) : listing.IsProper := by
  obtain ⟨entries, each, order⟩ := listed
  refine ⟨?_, each.isProper fun entry member => proper.wordings entry (order.mem_iff.1 member)⟩
  rw [each.names]
  exact (order.map _).nodup_iff.2 proper.fields

theorem Lists.equals (listed : listing.Lists l) (proper : l.IsProper) : listing.Equals l := by
  obtain ⟨entries, each, order⟩ := listed
  intro field
  have distinct : (Dictionary.names entries).Nodup := (order.map _).nodup_iff.2 proper.fields
  have same : Dictionary.get? field entries = l.get? field := Dictionary.get?_of_perm distinct order field
  exact same ▸ each.equals (fun entry member => proper.wordings entry (order.mem_iff.1 member)) field

theorem Lists.size_eq (listed : listing.Lists l) : listing.size = l.size := by
  obtain ⟨entries, each, order⟩ := listed
  exact each.length_eq.trans order.length_eq

end Lexicon

/-! ## Built lexicons are proper

Those that are put together are, and those that are read are, whatever the text repeats.
-/

namespace Wording

variable {w : Wording}

theorem isProper_empty : ({} : Wording).IsProper := ⟨List.nodup_nil, List.nodup_nil, fun _ member => nomatch member⟩

theorem IsProper.withReadableName (proper : w.IsProper) (language name : String) :
    (w.withReadableName language name).IsProper :=
  ⟨Dictionary.nodup_names_put proper.names, proper.languages, proper.sets⟩

theorem IsProper.withSynonym (proper : w.IsProper) (language synonym : String) :
    (w.withSynonym language synonym).IsProper := by
  have known : StringSet.IsAscending ((Dictionary.get? language w.synonyms).getD []) := by
    cases found : Dictionary.get? language w.synonyms with
    | none => exact List.Pairwise.nil
    | some set => exact proper.sets _ (Dictionary.mem_of_get? found)
  refine ⟨proper.names, Dictionary.nodup_names_put proper.languages, ?_⟩
  intro entry member
  rcases Dictionary.mem_put member with rfl | earlier
  · exact known.insert synonym
  · exact proper.sets entry earlier

theorem IsProper.withKey (proper : w.IsProper) (key : Bool) : (w.withKey key).IsProper :=
  ⟨proper.names, proper.languages, proper.sets⟩

end Wording

namespace Lexicon

variable {l : Lexicon} {w : Wording}

theorem isProper_empty : ({} : Lexicon).IsProper := ⟨List.nodup_nil, fun _ member => nomatch member⟩

theorem IsProper.put (proper : l.IsProper) (field : String) (named : w.IsProper) : (l.put field w).IsProper := by
  refine ⟨Dictionary.nodup_names_put proper.fields, ?_⟩
  intro entry member
  rcases Dictionary.mem_put member with rfl | earlier
  · exact named
  · exact proper.wordings entry earlier

theorem isProper_ofColumns (columns languages : List String) : (ofColumns columns languages).IsProper := by
  have named : ∀ (column : String) (w : Wording), w.IsProper →
      (languages.foldl (fun w language => w.withReadableName language column) w).IsProper := by
    intro column
    induction languages with
    | nil => exact fun w proper => proper
    | cons language languages ih => exact fun w proper => ih _ (proper.withReadableName language column)
  have folded : ∀ l : Lexicon, l.IsProper → (columns.foldl (fun l column =>
      l.put column (languages.foldl (fun w language => w.withReadableName language column) {})) l).IsProper := by
    induction columns with
    | nil => exact fun l proper => proper
    | cons column columns ih => exact fun l proper => ih _ (proper.put column (named column {} Wording.isProper_empty))
  exact folded {} isProper_empty

/-- A dictionary that is read names each value once, and all its values have been read. -/
theorem of_dictionary? {α : Type} {decode : Value → Option α} {P : α → Prop}
    (holds : ∀ v x, decode v = some x → P x) {v : Value} {d : Dictionary α} (read : dictionary? decode v = some d) :
    (Dictionary.names d).Nodup ∧ ∀ entry ∈ d, P entry.2 := by
  cases v with
  | object members =>
      have empty : (Dictionary.names ([] : Dictionary α)).Nodup ∧ ∀ entry ∈ ([] : Dictionary α), P entry.2 :=
        ⟨List.nodup_nil, fun _ member => nomatch member⟩
      refine foldlM_keeps (fun d => (Dictionary.names d).Nodup ∧ ∀ entry ∈ d, P entry.2) ?_ empty read
      intro before member after kept step
      obtain ⟨name, _, step⟩ := Option.bind_eq_some_iff.1 step
      obtain ⟨value, decoded, step⟩ := Option.bind_eq_some_iff.1 step
      cases step
      refine ⟨Dictionary.nodup_names_put kept.1, ?_⟩
      intro entry member
      rcases Dictionary.mem_put member with rfl | earlier
      · exact holds _ _ decoded
      · exact kept.2 entry earlier
  | _ => cases read

theorem isAscending_of_stringSet? {v : Value} {set : StringSet} (read : stringSet? v = some set) :
    StringSet.IsAscending set := by
  cases v with
  | array elements =>
      obtain ⟨strings, _, rfl⟩ := Option.map_eq_some_iff.1 read
      exact StringSet.isAscending_ofList strings
  | _ => cases read

theorem nodup_of_readableNames? {v : Value} {d : Dictionary String} (read : dictionary? textOf? v = some d) :
    (Dictionary.names d).Nodup :=
  (of_dictionary? (fun _ _ _ => trivial) read : _ ∧ ∀ entry ∈ d, True).1

theorem of_synonyms? {v : Value} {d : Dictionary StringSet} (read : dictionary? stringSet? v = some d) :
    (Dictionary.names d).Nodup ∧ ∀ entry ∈ d, StringSet.IsAscending entry.2 :=
  of_dictionary? (fun _ _ => isAscending_of_stringSet?) read

theorem PartialWording.isProper_read? {p q : PartialWording} {member : Option (List Char) × Value}
    (proper : p.complete.IsProper) (read : p.read? member = some q) : q.complete.IsProper := by
  obtain ⟨name, v⟩ := member
  cases name with
  | none => cases read
  | some name =>
      rw [PartialWording.read?] at read
      split at read
      · split at read
        · cases read
        · obtain ⟨d, decoded, rfl⟩ := Option.map_eq_some_iff.1 read
          exact ⟨nodup_of_readableNames? decoded, proper.languages, proper.sets⟩
      split at read
      · split at read
        · cases read
        · obtain ⟨d, decoded, rfl⟩ := Option.map_eq_some_iff.1 read
          exact ⟨proper.names, (of_synonyms? decoded).1, (of_synonyms? decoded).2⟩
      split at read
      · split at read
        · cases read
        · obtain ⟨b, _, rfl⟩ := Option.map_eq_some_iff.1 read
          exact ⟨proper.names, proper.languages, proper.sets⟩
      · cases read
        exact proper

theorem isProper_of_wording? {v : Value} (read : wording? v = some w) : w.IsProper := by
  cases v with
  | object members =>
      obtain ⟨p, members, rfl⟩ := Option.map_eq_some_iff.1 read
      have empty : ({} : PartialWording).complete.IsProper := Wording.isProper_empty
      exact foldlM_keeps (fun p => p.complete.IsProper) (fun _ _ _ => PartialWording.isProper_read?) empty members
  | array elements =>
      rw [wording?] at read
      rcases elements with _ | ⟨names, _ | ⟨synonyms, _ | ⟨key, _ | ⟨more, elements⟩⟩⟩⟩
      · cases read
        exact Wording.isProper_empty
      · obtain ⟨d, named, read⟩ := Option.bind_eq_some_iff.1 read
        cases read
        exact ⟨nodup_of_readableNames? named, List.nodup_nil, fun _ member => nomatch member⟩
      · obtain ⟨d, named, read⟩ := Option.bind_eq_some_iff.1 read
        obtain ⟨e, listed, read⟩ := Option.bind_eq_some_iff.1 read
        cases read
        exact ⟨nodup_of_readableNames? named, (of_synonyms? listed).1, (of_synonyms? listed).2⟩
      · obtain ⟨d, named, read⟩ := Option.bind_eq_some_iff.1 read
        obtain ⟨e, listed, read⟩ := Option.bind_eq_some_iff.1 read
        obtain ⟨b, _, read⟩ := Option.bind_eq_some_iff.1 read
        cases read
        exact ⟨nodup_of_readableNames? named, (of_synonyms? listed).1, (of_synonyms? listed).2⟩
      · cases read
  | _ => cases read

theorem isProper_of_ofJson {text : String} (read : ofJson text = .ok l) : l.IsProper := by
  rw [ofJson] at read
  split at read
  · next entries decoded =>
      cases read
      obtain ⟨v, _, decoded⟩ := Option.bind_eq_some_iff.1 decoded
      obtain ⟨fields, wordings⟩ := of_dictionary? (fun _ _ => isProper_of_wording?) decoded
      exact ⟨fields, wordings⟩
  · cases read

theorem IsProper.of_get? (proper : l.IsProper) {field : String} (known : l.get? field = some w) : w.IsProper :=
  proper.wordings _ (Dictionary.mem_of_get? known)

end Lexicon

theorem Wording.IsBuilt.isProper {w : Wording} (built : w.IsBuilt) : w.IsProper := by
  induction built with
  | empty => exact isProper_empty
  | withReadableName language name _ ih => exact ih.withReadableName language name
  | withSynonym language synonym _ ih => exact ih.withSynonym language synonym
  | withKey key _ ih => exact ih.withKey key
  | ofJson read known => exact (Lexicon.isProper_of_ofJson read).of_get? known

theorem Lexicon.IsBuilt.isProper {l : Lexicon} (built : l.IsBuilt) : l.IsProper := by
  induction built with
  | empty => exact isProper_empty
  | ofColumns columns languages => exact isProper_ofColumns columns languages
  | ofJson read => exact isProper_of_ofJson read
  | put field _ named ih => exact ih.put field named.isProper

namespace Lexicon

variable {l : Lexicon}

/-! ## Reading what has been written -/

variable {α : Type} {encode : α → Value} {decode : Value → Option α} {d : Dictionary α}

theorem isPlain_ofText (s : String) : (ofText s).IsPlain := .string s.toList

theorem isPlain_ofDictionary (plain : ∀ entry ∈ d, (encode entry.2).IsPlain) : (ofDictionary encode d).IsPlain := by
  apply Value.IsPlain.object
  · intro member inside
    obtain ⟨entry, _, rfl⟩ := List.mem_map.1 inside
    rfl
  · intro member inside
    obtain ⟨entry, known, rfl⟩ := List.mem_map.1 inside
    exact plain entry known

theorem isPlain_ofSet (set : StringSet) : (Value.array (set.map ofText)).IsPlain := by
  apply Value.IsPlain.array
  intro element inside
  obtain ⟨s, _, rfl⟩ := List.mem_map.1 inside
  exact isPlain_ofText s

theorem isPlain_ofWording (w : Wording) : (ofWording w).IsPlain := by
  have readableNames : (ofDictionary ofText w.readableNames).IsPlain :=
    isPlain_ofDictionary fun entry _ => isPlain_ofText entry.2
  have synonyms : (ofDictionary (fun set => .array (set.map ofText)) w.synonyms).IsPlain :=
    isPlain_ofDictionary fun entry _ => isPlain_ofSet entry.2
  apply Value.IsPlain.object
  · simp
  · simp only [List.forall_mem_cons]
    exact ⟨readableNames, synonyms, .bool w.key, by simp⟩

theorem textOf?_ofText (s : String) : textOf? (ofText s) = some s := by
  rw [ofText, textOf?, String.ofList_toList]

theorem stringSet?_ofSet {set : StringSet} (ascending : StringSet.IsAscending set) :
    stringSet? (.array (set.map ofText)) = some set := by
  have members : ∀ strings : List String, (strings.map ofText).mapM textOf? = some strings := by
    intro strings
    induction strings with
    | nil => rfl
    | cons s strings ih => simp [List.mapM_cons, textOf?_ofText, ih]
  rw [stringSet?, members, Option.map_some, StringSet.ofList_of_isAscending ascending]

theorem dictionary?_ofDictionary (distinct : (Dictionary.names d).Nodup)
    (back : ∀ entry ∈ d, decode (encode entry.2) = some entry.2) :
    dictionary? decode (ofDictionary encode d) = some d := by
  -- by induction on the members still to be read, whatever has been read before them
  have after : ∀ (before : Dictionary α), (Dictionary.names (before ++ d)).Nodup →
      (d.map fun entry => (some entry.1.toList, encode entry.2)).foldlM (putMember? decode) before = some (before ++ d) := by
    clear distinct
    induction d with
    | nil => exact fun before _ => by simp
    | cons entry d ih =>
        intro before distinct
        obtain ⟨name, v⟩ := entry
        obtain ⟨here, later⟩ := List.forall_mem_cons.1 back
        have fresh : name ∉ Dictionary.names before := by
          rw [Dictionary.names, List.map_append] at distinct
          exact fun known => List.disjoint_of_nodup_append distinct known List.mem_cons_self
        have put : putMember? decode before (some name.toList, encode v) = some (before ++ [(name, v)]) := by
          simp [putMember?, here, String.ofList_toList, Dictionary.put_of_not_mem fresh]
        have rest := ih later (before ++ [(name, v)]) (by simpa using distinct)
        simp only [List.map_cons, List.foldlM_cons, put, Option.bind_eq_bind, Option.bind_some, rest]
        simp
  exact after [] distinct

theorem wording?_ofWording {w : Wording} (proper : w.IsProper) : wording? (ofWording w) = some w := by
  have readableNames : dictionary? textOf? (ofDictionary ofText w.readableNames) = some w.readableNames :=
    dictionary?_ofDictionary proper.names fun entry _ => textOf?_ofText entry.2
  have synonyms : dictionary? stringSet? (ofDictionary (fun set => .array (set.map ofText)) w.synonyms) =
      some w.synonyms :=
    dictionary?_ofDictionary proper.languages fun entry member => stringSet?_ofSet (proper.sets entry member)
  have first : PartialWording.read? {} (some "readable_names".toList, ofDictionary ofText w.readableNames) =
      some { readableNames := some w.readableNames } := by
    rw [PartialWording.read?, if_pos rfl, readableNames]
    rfl
  have second : PartialWording.read? { readableNames := some w.readableNames }
      (some "synonyms".toList, ofDictionary (fun set => .array (set.map ofText)) w.synonyms) =
        some ⟨some w.readableNames, some w.synonyms, none⟩ := by
    rw [PartialWording.read?, if_neg (by decide), if_pos rfl, synonyms]
    rfl
  have third : PartialWording.read? ⟨some w.readableNames, some w.synonyms, none⟩ (some "key".toList, .bool w.key) =
      some ⟨some w.readableNames, some w.synonyms, some w.key⟩ := by
    rw [PartialWording.read?, if_neg (by decide), if_neg (by decide), if_pos rfl]
    rfl
  rw [ofWording, wording?, List.foldlM_cons, first, Option.bind_eq_bind, Option.bind_some, List.foldlM_cons, second,
    Option.bind_eq_bind, Option.bind_some, List.foldlM_cons, third]
  rfl

/-- A listing comes back as it has been written, in its order. -/
theorem ofJson_toJson (proper : l.IsProper) : ofJson l.toJson = .ok l := by
  have written : (ofDictionary ofWording l.entries).IsPlain :=
    isPlain_ofDictionary fun entry _ => isPlain_ofWording entry.2
  have back : dictionary? wording? (ofDictionary ofWording l.entries) = some l.entries :=
    dictionary?_ofDictionary proper.fields fun entry member => wording?_ofWording (proper.wordings entry member)
  rw [ofJson, toJson, String.toList_ofList, read?_write written, Option.bind_some, back]

/-- A lexicon that can be built lists nothing twice. In whatever order the fields and languages of such a lexicon are
    written out, it comes back equal. -/
theorem exists_ofJson_toJson (l : Lexicon) :
    (l.IsBuilt → l.IsProper)
      ∧ (l.IsProper → ∀ listing : Lexicon, listing.Lists l →
        ∃ read, ofJson listing.toJson = .ok read ∧ read.IsProper ∧ read.size = l.size ∧ read.Equals l) := by
  refine ⟨IsBuilt.isProper, fun proper listing listed => ?_⟩
  have told : listing.IsProper := listed.isProper proper
  exact ⟨listing, ofJson_toJson told, told, listed.size_eq, listed.equals proper⟩

/-- What the field without a name is called: by a quote, a backslash and a control character, or by nothing. -/
def oddWording : Wording :=
  { readableNames := [("en", "\"\\"), ("", "\x00\n")], synonyms := [("es", ["", "\t", "ñ"]), ("\"", [])], key := true }

/-- A plain field and one without a name. -/
def oddLexicon : Lexicon := ⟨[("salary", {}), ("", oddWording)]⟩

/-- The same fields and languages the other way round. -/
def oddListing : Lexicon :=
  ⟨[("", ⟨[("", "\x00\n"), ("en", "\"\\")], [("\"", []), ("es", ["", "\t", "ñ"])], true⟩), ("salary", {})]⟩

/-- Columns and languages that are told twice are listed once, and names of any signs come back. -/
theorem exists_ofJson_toJson_odd :
    ((ofColumns ["salary", "salary"] ["en", "en"]).put "" (({} : Wording).withSynonym "es" "ñ")).IsProper
      ∧ oddLexicon.IsProper ∧ oddListing.Lists oddLexicon
      ∧ ∃ read, ofJson oddListing.toJson = .ok read ∧ read.IsProper ∧ read.size = 2 ∧ read.Equals oddLexicon := by
  have built := (exists_ofJson_toJson _).1 ((IsBuilt.ofColumns ["salary", "salary"] ["en", "en"]).put ""
    (Wording.IsBuilt.empty.withSynonym "es" "ñ"))
  have odd : oddWording.IsProper := ⟨by decide, by decide, by unfold oddWording StringSet.IsAscending; decide⟩
  have proper : oddLexicon.IsProper :=
    ⟨by decide, List.forall_mem_cons.2 ⟨Wording.isProper_empty, List.forall_mem_singleton.2 odd⟩⟩
  have listed : oddListing.Lists oddLexicon := by
    refine ⟨[("", oddWording), ("salary", {})], ?_, .swap _ _ _⟩
    exact .cons ⟨rfl, .swap _ _ _, .swap _ _ _, rfl⟩ (.cons ⟨rfl, .refl _, .refl _, rfl⟩ .nil)
  exact ⟨built, proper, listed, (exists_ofJson_toJson oddLexicon).2 proper oddListing listed⟩

end Lexicon

end Datasheet
