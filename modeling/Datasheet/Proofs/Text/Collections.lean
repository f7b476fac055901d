import Datasheet.Text.Dictionary
import Datasheet.Text.StringSet
import Mathlib.Data.List.Induction
import Mathlib.Data.List.Nodup
import Mathlib.Data.String.Basic

/-! # Sets and dictionaries

A set of strings is the ascending list of its members, and a dictionary names each of its values once. The
operations keep both, and what is built up in order from a list with the same property is that list.
-/

namespace Datasheet

/-- What every step keeps, all of them keep, if none of them fails. -/
theorem foldlM_keeps {State Member : Type} {step : State → Member → Option State} (Kept : State → Prop)
    (keeps : ∀ before member after, Kept before → step before member = some after → Kept after) {before after : State}
    {members : List Member} (kept : Kept before) (run : members.foldlM step before = some after) : Kept after := by
  induction members generalizing before with
  | nil =>
      cases run
      exact kept
  | cons member members ih =>
      rw [List.foldlM_cons] at run
      obtain ⟨next, first, later⟩ := Option.bind_eq_some_iff.1 run
      exact ih (keeps before member next kept first) later

namespace StringSet

/-- The members stand in strictly ascending order, so each of them stands once. -/
def IsAscending (set : StringSet) : Prop := set.Pairwise (· < ·)

variable {s t : String} {set : StringSet}

theorem mem_insert : t ∈ insert s set ↔ t = s ∨ t ∈ set := by
  induction set with
  | nil => simp [insert]
  | cons head rest ih =>
      rw [insert]
      split
      · next here => subst here; simp
      · split
        · simp
        · simp [ih, or_left_comm]

theorem IsAscending.insert (ascending : IsAscending set) (s : String) : IsAscending (insert s set) := by
  induction set with
  | nil => exact List.pairwise_singleton _ _
  | cons head rest ih =>
      obtain ⟨first, later⟩ := List.pairwise_cons.1 ascending
      rw [StringSet.insert]
      split
      · exact ascending
      · next other =>
          split
          · next below =>
              refine List.pairwise_cons.2 ⟨?_, ascending⟩
              intro member inside
              rcases List.mem_cons.1 inside with rfl | inside
              · exact below
              · exact below.trans (first member inside)
          · next above =>
              refine List.pairwise_cons.2 ⟨?_, ih later⟩
              intro member inside
              rcases mem_insert.1 inside with rfl | inside
              · exact lt_of_le_of_ne (le_of_not_gt above) (Ne.symm other)
              · exact first member inside

theorem insert_of_mem (ascending : IsAscending set) (member : s ∈ set) : insert s set = set := by
  induction set with
  | nil => cases member
  | cons head rest ih =>
      obtain ⟨first, later⟩ := List.pairwise_cons.1 ascending
      rw [insert]
      split
      · rfl
      · next other =>
          have inside : s ∈ rest := (List.mem_cons.1 member).resolve_left other
          rw [if_neg (lt_asymm (first s inside)), ih later inside]

theorem insert_of_forall_lt (above : ∀ member ∈ set, member < s) : insert s set = set ++ [s] := by
  induction set with
  | nil => rfl
  | cons head rest ih =>
      obtain ⟨here, later⟩ := List.forall_mem_cons.1 above
      rw [insert, if_neg here.ne', if_neg (lt_asymm here), ih later]
      rfl

theorem isAscending_ofList (strings : List String) : IsAscending (ofList strings) := by
  have folded : ∀ set, IsAscending set → IsAscending (strings.foldl (fun set s => StringSet.insert s set) set) := by
    induction strings with
    | nil => exact fun set ascending => ascending
    | cons s strings ih => exact fun set ascending => ih _ (ascending.insert s)
  exact folded [] List.Pairwise.nil

theorem mem_ofList {strings : List String} : s ∈ ofList strings ↔ s ∈ strings := by
  have folded : ∀ set : StringSet,
      s ∈ strings.foldl (fun set t => StringSet.insert t set) set ↔ s ∈ strings ∨ s ∈ set := by
    induction strings with
    | nil => simp
    | cons t strings ih =>
        intro set
        rw [List.foldl_cons, ih, mem_insert, List.mem_cons, or_left_comm, or_assoc]
  rw [ofList, folded]
  simp

theorem ofList_of_isAscending (ascending : IsAscending set) : ofList set = set := by
  induction set using List.reverseRecOn with
  | nil => rfl
  | append_singleton set s ih =>
      obtain ⟨earlier, _, above⟩ := List.pairwise_append.1 ascending
      have before : ofList set = set := ih earlier
      rw [ofList, List.foldl_append] at *
      rw [before]
      exact insert_of_forall_lt fun member inside => above member inside s (List.mem_singleton_self s)

theorem remove_sublist (s : String) (set : StringSet) : (remove s set).Sublist set := by
  induction set with
  | nil => exact .slnil
  | cons head rest ih =>
      rw [remove]
      split
      · exact List.sublist_cons_self head rest
      · exact ih.cons_cons head

theorem IsAscending.remove (ascending : IsAscending set) (s : String) : IsAscending (remove s set) :=
  List.Pairwise.sublist (remove_sublist s set) ascending

theorem remove_of_not_mem (foreign : s ∉ set) : remove s set = set := by
  induction set with
  | nil => rfl
  | cons head rest ih =>
      obtain ⟨other, foreign⟩ := not_or.1 (mt List.mem_cons.2 foreign)
      rw [remove, if_neg other, ih foreign]

end StringSet

namespace Dictionary

variable {α : Type} {name : String} {value : α} {d : Dictionary α}

/-- The names of a dictionary's values, in order. -/
def names (d : Dictionary α) : List String := d.map (·.1)

theorem names_cons (name : String) (value : α) (d : Dictionary α) : names ((name, value) :: d) = name :: names d := rfl

theorem mem_names_of_mem (member : (name, value) ∈ d) : name ∈ names d := List.mem_map.2 ⟨_, member, rfl⟩

theorem get?_cons (name key : String) (value : α) (d : Dictionary α) :
    get? name ((key, value) :: d) = if name = key then some value else get? name d := by
  rw [get?, List.lookup_cons]
  by_cases same : name = key
  · simp [same]
  · simp [same, get?, beq_eq_false_iff_ne.2 same]

theorem get?_put (name other : String) (value : α) (d : Dictionary α) :
    get? name (put other value d) = if name = other then some value else get? name d := by
  induction d with
  | nil => rw [put, get?_cons]
  | cons entry d ih =>
      obtain ⟨key, old⟩ := entry
      rw [put]
      split
      next here =>
          subst here
          rw [get?_cons, get?_cons]
          split <;> rfl
      next elsewhere =>
          rw [get?_cons, get?_cons, ih]
          by_cases same : name = key
          · subst same
            simp [elsewhere]
          · simp [same]

theorem get?_foldl_put (value : String → α) (others : List String) (name : String) (d : Dictionary α) :
    get? name (others.foldl (fun d other => put other (value other) d) d)
      = if name ∈ others then some (value name) else get? name d := by
  induction others generalizing d with
  | nil => simp
  | cons other others ih =>
      rw [List.foldl_cons, ih, get?_put]
      by_cases later : name ∈ others
      · simp [later]
      · by_cases same : name = other <;> simp [later, same]

theorem mem_of_get? (found : get? name d = some value) : (name, value) ∈ d := by
  induction d with
  | nil => cases found
  | cons entry d ih =>
      obtain ⟨key, old⟩ := entry
      rw [get?_cons] at found
      split at found
      · next here =>
          cases found
          exact here ▸ List.mem_cons_self
      · exact List.mem_cons_of_mem _ (ih found)

theorem mem_put {entry : String × α} (member : entry ∈ put name value d) : entry = (name, value) ∨ entry ∈ d := by
  induction d with
  | nil => exact .inl (List.mem_singleton.1 member)
  | cons other d ih =>
      obtain ⟨key, old⟩ := other
      rw [put] at member
      split at member
      · rcases List.mem_cons.1 member with rfl | inside
        · exact .inl rfl
        · exact .inr (List.mem_cons_of_mem _ inside)
      · rcases List.mem_cons.1 member with rfl | inside
        · exact .inr List.mem_cons_self
        · exact (ih inside).imp_right (List.mem_cons_of_mem _)

theorem put_of_get? (found : get? name d = some value) : put name value d = d := by
  induction d with
  | nil => cases found
  | cons entry d ih =>
      obtain ⟨key, old⟩ := entry
      rw [get?_cons] at found
      rw [put]
      split at found
      · next here =>
          cases found
          rw [if_pos here.symm, here]
      · next elsewhere => rw [if_neg (Ne.symm elsewhere), ih found]

theorem put_of_not_mem (fresh : name ∉ names d) : put name value d = d ++ [(name, value)] := by
  induction d with
  | nil => rfl
  | cons entry d ih =>
      obtain ⟨key, old⟩ := entry
      obtain ⟨other, fresh⟩ := not_or.1 (mt List.mem_cons.2 fresh)
      rw [put, if_neg (Ne.symm other), ih fresh]
      rfl

theorem mem_names_put {other : String} : other ∈ names (put name value d) ↔ other = name ∨ other ∈ names d := by
  induction d with
  | nil => exact List.mem_cons
  | cons entry d ih =>
      obtain ⟨key, old⟩ := entry
      rw [put]
      split
      · next here => simp [names_cons, here]
      · simp [names_cons, ih, or_left_comm]

theorem nodup_names_put (distinct : (names d).Nodup) : (names (put name value d)).Nodup := by
  induction d with
  | nil => exact List.pairwise_singleton _ _
  | cons entry d ih =>
      obtain ⟨key, old⟩ := entry
      obtain ⟨fresh, distinct⟩ := List.nodup_cons.1 distinct
      rw [put]
      split
      · next here => exact here ▸ List.nodup_cons.2 ⟨fresh, distinct⟩
      · next elsewhere =>
          refine List.nodup_cons.2 ⟨?_, ih distinct⟩
          exact mt mem_names_put.1 (not_or.2 ⟨elsewhere, fresh⟩)

theorem get?_eq_some_iff (distinct : (names d).Nodup) : get? name d = some value ↔ (name, value) ∈ d := by
  refine ⟨mem_of_get?, fun member => ?_⟩
  induction d with
  | nil => cases member
  | cons entry d ih =>
      obtain ⟨key, old⟩ := entry
      obtain ⟨fresh, distinct⟩ := List.nodup_cons.1 distinct
      rw [get?_cons]
      rcases List.mem_cons.1 member with here | inside
      · cases here
        exact if_pos rfl
      · have elsewhere : name ≠ key := fun same => fresh (same ▸ mem_names_of_mem inside)
        rw [if_neg elsewhere, ih distinct inside]

/-- The order of distinct names says nothing about their values. -/
theorem get?_of_perm {e : Dictionary α} (distinct : (names d).Nodup) (same : d.Perm e) (name : String) :
    get? name d = get? name e := by
  have others : (names e).Nodup := (same.map _).nodup distinct
  apply Option.ext
  intro value
  rw [get?_eq_some_iff distinct, get?_eq_some_iff others, same.mem_iff]

end Dictionary

end Datasheet
