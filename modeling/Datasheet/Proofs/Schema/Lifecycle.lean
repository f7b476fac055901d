import Datasheet.Proofs.Schema.Edits
import Mathlib.Data.List.Nodup

/-! # The life of a schema

Fields are added to a schema, deleted, recovered and edited in any order. Fields move between two lists on the way;
what holds of every schema that can be reached is told here from the steps that took place: which fields there are,
in which order they stand and what each of them says.
-/

namespace Datasheet

namespace Schema

/-! ## Steps and runs -/

/-- A step in the life of a schema. -/
inductive Step where
  | add (f : Field)
  | delete (name : String)
  | recover (name : String)
  | edit (name : String) (edit : Field.Edit)
  deriving DecidableEq, Repr

/-- Takes a step. Only a live field can be edited. -/
def perform (s : Schema) : Step → Except Error Schema
  | .add f => s.add f
  | .delete name => s.delete name
  | .recover name => s.recover name
  | .edit name edit =>
      match s.field? name with
      | some _ => .ok (s.edit name edit.apply)
      | none => .error (.unknownField name)

/-- The schema after a step. A step that fails leaves it as it is. -/
def after (s : Schema) (step : Step) : Schema :=
  match s.perform step with
  | .ok s' => s'
  | .error _ => s

def run (s : Schema) (steps : List Step) : Schema := steps.foldl after s

/-- The steps that take place when all of them are tried in order. -/
def taken (s : Schema) : List Step → List Step
  | [] => []
  | step :: steps =>
      match s.perform step with
      | .ok s' => step :: taken s' steps
      | .error _ => taken s steps

/-- The names of all fields, live and deleted. -/
def names (s : Schema) : List String := (s.fields ++ s.deleted).map (·.name)

/-- A step can be taken: what is added has a new name, and what is deleted, recovered or edited is there. -/
def Allows (s : Schema) : Step → Prop
  | .add f => f.name ∉ s.names
  | .delete name => name ∈ s.fieldNames
  | .recover name => name ∈ s.deleted.map (·.name)
  | .edit name _ => name ∈ s.fieldNames

/-- What a step does to the two lists. -/
inductive Change (s : Schema) : Step → Schema → Prop where
  | add {f : Field} (fresh : f.name ∉ s.names) : Change s (.add f) { s with fields := s.fields ++ [f] }
  | delete {f : Field} {before later : List Field} (here : s.fields = before ++ f :: later) :
      Change s (.delete f.name) { s with fields := before ++ later, deleted := s.deleted ++ [f] }
  | recover {f : Field} {before later : List Field} (here : s.deleted = before ++ f :: later) :
      Change s (.recover f.name) { s with fields := s.fields ++ [f], deleted := before ++ later }
  | edit {f : Field} {before later : List Field} (edit : Field.Edit) (here : s.fields = before ++ f :: later) :
      Change s (.edit f.name edit) { s with fields := before ++ edit.apply f :: later }

section

variable {s s' : Schema} {f : Field} {name : String} {step : Step} {fields rest : List Field}

/-! ## One step -/

theorem takeOut?_eq_some (found : takeOut? name fields = some (f, rest)) :
    f.name = name ∧ ∃ before later, fields = before ++ f :: later ∧ rest = before ++ later := by
  induction fields generalizing rest with
  | nil => cases found
  | cons g fields ih =>
      rw [takeOut?] at found
      split at found
      next here =>
          cases found
          exact ⟨here, [], _, rfl, rfl⟩
      next elsewhere =>
          obtain ⟨⟨found, others⟩, taken, same⟩ := Option.map_eq_some_iff.1 found
          cases same
          obtain ⟨named, before, later, rfl, rfl⟩ := ih taken
          exact ⟨named, g :: before, later, rfl, rfl⟩

theorem takeOut?_eq_none : takeOut? name fields = none ↔ name ∉ fields.map (·.name) := by
  induction fields with
  | nil => simp [takeOut?]
  | cons g fields ih =>
      rw [takeOut?]
      by_cases here : g.name = name
      · simp [here]
      · simp [here, ih, Ne.symm here]

theorem editFirst_eq {before later : List Field} (edit : Field → Field)
    (first : ∀ g ∈ before, g.name ≠ f.name) :
    editFirst f.name edit (before ++ f :: later) = before ++ edit f :: later := by
  induction before with
  | nil => simp [editFirst]
  | cons g before ih =>
      obtain ⟨other, first⟩ := List.forall_mem_cons.1 first
      simp [editFirst, other, ih first]

theorem hasName_iff : s.hasName name = true ↔ name ∈ s.names := by
  simp [hasName, names]

/-- A step that succeeds changes the lists in one way. -/
theorem change_of_perform (done : s.perform step = .ok s') : s.Change step s' := by
  cases step with
  | add f =>
      simp only [perform, Schema.add] at done
      split at done
      · cases done
      · next fresh =>
          cases done
          exact .add fun member => fresh (hasName_iff.2 member)
  | delete name =>
      simp only [perform, Schema.delete] at done
      split at done
      · next found =>
          cases done
          obtain ⟨rfl, before, later, here, rfl⟩ := takeOut?_eq_some found
          exact .delete here
      · cases done
  | recover name =>
      simp only [perform, Schema.recover] at done
      split at done
      · next found =>
          cases done
          obtain ⟨rfl, before, later, here, rfl⟩ := takeOut?_eq_some found
          exact .recover here
      · cases done
  | edit name edit =>
      simp only [perform] at done
      split at done
      · next f found =>
          cases done
          obtain ⟨named, before, later, here, first⟩ := List.find?_eq_some_iff_append.1 found
          obtain rfl : f.name = name := by simpa using named
          have edited : s.edit f.name edit.apply = { s with fields := before ++ edit.apply f :: later } := by
            rw [Schema.edit, here, editFirst_eq edit.apply (by simpa using first)]
          rw [edited]
          exact .edit edit here
      · cases done

theorem exists_takeOut? : (∃ found, takeOut? name fields = some found) ↔ name ∈ fields.map (·.name) := by
  rw [← Option.ne_none_iff_exists', Ne, takeOut?_eq_none, not_not]

theorem exists_field? : (∃ f, s.field? name = some f) ↔ name ∈ s.fieldNames := by
  rw [← Option.ne_none_iff_exists', Ne, field?, List.find?_eq_none, fieldNames, List.mem_map]
  simp

/-- A step can be taken exactly if the schema allows it. -/
theorem perform_eq_ok_iff : (∃ s', s.perform step = .ok s') ↔ s.Allows step := by
  cases step with
  | add f =>
      rw [Allows, ← hasName_iff]
      cases known : s.hasName f.name <;> simp [perform, Schema.add, known]
  | delete name =>
      rw [Allows, fieldNames, ← exists_takeOut?]
      cases found : takeOut? name s.fields <;> simp [perform, Schema.delete, found]
  | recover name =>
      rw [Allows, ← exists_takeOut?]
      cases found : takeOut? name s.deleted <;> simp [perform, Schema.recover, found]
  | edit name edit =>
      rw [Allows, ← exists_field?]
      cases found : s.field? name <;> simp [perform, found]

theorem perform_of_not_allows (forbidden : ¬s.Allows step) : (∃ e, s.perform step = .error e) ∧ s.after step = s := by
  cases done : s.perform step with
  | ok s' => exact absurd (perform_eq_ok_iff.1 ⟨s', done⟩) forbidden
  | error e => exact ⟨⟨e, rfl⟩, by simp [after, done]⟩

theorem after_of_perform (done : s.perform step = .ok s') : s.after step = s' := by simp [after, done]

end

/-! ## What a step keeps -/

/-- The field that a step adds. -/
def Step.added? : Step → Option Field
  | .add f => some f
  | _ => none

/-- The name that a step brings among the live fields. -/
def Step.arrival? : Step → Option String
  | .add f => some f.name
  | .recover name => some name
  | _ => none

/-- What a step makes of a live field. -/
def Step.on (step : Step) (f : Field) : Field :=
  match step with
  | .edit name change => if name = f.name then change.apply f else f
  | _ => f

theorem nodup_fieldNames {s : Schema} (distinct : s.names.Nodup) : s.fieldNames.Nodup := by
  rw [names, List.map_append] at distinct
  exact (List.nodup_append.1 distinct).1

theorem not_mem_of_nodup {before later : List String} {name : String} (distinct : (before ++ name :: later).Nodup) :
    name ∉ before ++ later :=
  (List.nodup_cons.1 (List.perm_middle.nodup_iff.1 distinct)).1

namespace Change

variable {s s' : Schema} {f : Field} {step : Step}

theorem names_perm (change : s.Change step s') : s'.names.Perm (s.names ++ step.added?.toList.map (·.name)) := by
  cases change with
  | @add f fresh =>
      simp only [names, Step.added?, Option.toList_some, ← List.map_append]
      apply List.Perm.map
      rw [List.append_assoc, List.append_assoc]
      exact List.perm_append_comm.append_left _
  | @delete f before later here =>
      simp only [names, Step.added?, Option.toList_none, ← List.map_append, here, List.append_nil]
      apply List.Perm.map
      rw [List.append_assoc, List.append_assoc, List.cons_append]
      refine List.Perm.append_left _ ?_
      rw [← List.append_assoc]
      exact List.perm_append_singleton _ _
  | @recover f before later here =>
      simp only [names, Step.added?, Option.toList_none, ← List.map_append, here, List.append_nil]
      apply List.Perm.map
      rw [List.append_assoc, List.singleton_append]
      exact List.perm_middle.symm.append_left s.fields
  | @edit f before later edit here =>
      simp [names, Step.added?, here, (Field.sameColumn_apply edit f).name]

theorem distinct (change : s.Change step s') (distinct : s.names.Nodup) : s'.names.Nodup := by
  rw [change.names_perm.nodup_iff]
  cases change with
  | add fresh =>
      simpa [Step.added?, List.nodup_append] using ⟨distinct, fun a inside same => fresh (same ▸ inside)⟩
  | delete here => simpa [Step.added?] using distinct
  | recover here => simpa [Step.added?] using distinct
  | edit edit here => simpa [Step.added?] using distinct

theorem fieldNames_eq (change : s.Change step s') (distinct : s.names.Nodup) :
    s'.fieldNames = (s.fieldNames.filter fun name => step ≠ .delete name) ++ step.arrival?.toList := by
  cases change with
  | add fresh => simp [fieldNames, Step.arrival?]
  | @delete f before later here =>
      have live : (before.map (·.name) ++ f.name :: later.map (·.name)).Nodup := by
        simpa [fieldNames, here] using nodup_fieldNames distinct
      have others : ∀ name ∈ before.map (·.name) ++ later.map (·.name), f.name ≠ name := by
        intro name member same
        exact not_mem_of_nodup live (same ▸ member)
      have kept : ((before.map (·.name) ++ later.map (·.name)).filter fun name => Step.delete f.name ≠ .delete name) =
          before.map (·.name) ++ later.map (·.name) := by
        apply List.filter_eq_self.2
        intro name member
        simpa using others name member
      simp only [fieldNames, here, List.map_append, List.map_cons, List.filter_append, Step.arrival?,
        Option.toList_none, List.append_nil]
      rw [List.filter_cons_of_neg (by simp), ← List.filter_append, kept]
  | recover here => simp [fieldNames, Step.arrival?]
  | @edit f before later edit here => simp [fieldNames, Step.arrival?, here, (Field.sameColumn_apply edit f).name]

/-- Every field has been there before, up to an edit, or is new. -/
theorem origin (change : s.Change step s') (distinct : s.names.Nodup) (member : f ∈ s'.fields ++ s'.deleted) :
    (∃ g ∈ s.fields ++ s.deleted, f = step.on g) ∨ step = .add f := by
  cases change with
  | @add g fresh =>
      have cases : f ∈ s.fields ++ s.deleted ∨ f = g := by
        simp only [List.mem_append, List.mem_singleton] at member ⊢
        tauto
      rcases cases with inside | rfl
      · exact .inl ⟨f, inside, rfl⟩
      · exact .inr rfl
  | @delete g before later here =>
      refine .inl ⟨f, ?_, rfl⟩
      simp only [here, List.mem_append, List.mem_cons, List.not_mem_nil] at member ⊢
      tauto
  | @recover g before later here =>
      refine .inl ⟨f, ?_, rfl⟩
      simp only [here, List.mem_append, List.mem_cons, List.not_mem_nil] at member ⊢
      tauto
  | @edit g before later edit here =>
      -- The edited field is the only one of its name, so the edit passes by all others.
      have others : ∀ h ∈ before ++ later ++ s.deleted, g.name ≠ h.name := by
        have whole : (before.map (·.name) ++ g.name :: (later ++ s.deleted).map (·.name)).Nodup := by
          simpa [names, here] using distinct
        intro h inside same
        apply not_mem_of_nodup whole
        rw [same, ← List.map_append, ← List.append_assoc]
        exact List.mem_map_of_mem inside
      have cases : f ∈ before ++ later ++ s.deleted ∨ f = edit.apply g := by
        simp only [List.mem_append, List.mem_cons] at member ⊢
        tauto
      rcases cases with inside | rfl
      · refine .inl ⟨f, ?_, by simp [Step.on, others f inside]⟩
        simp only [here, List.mem_append, List.mem_cons] at inside ⊢
        tauto
      · exact .inl ⟨g, by simp [here], by simp [Step.on]⟩

theorem mem_deleted (change : s.Change step s') (member : f ∈ s.deleted) (kept : step ≠ .recover f.name) :
    f ∈ s'.deleted := by
  cases change with
  | add fresh => exact member
  | delete here => exact List.mem_append_left _ member
  | @recover g before later here =>
      have other : f ≠ g := fun same => kept (same ▸ rfl)
      rw [here] at member
      simpa [other] using member
  | edit edit here => exact member

end Change

/-! ## Runs -/

/-- The names that a list of steps leaves among the live fields: an arrival stands unless its name is deleted later.
    They are in the order of their last arrivals. -/
def standing : List Step → List String
  | [] => []
  | step :: later =>
      match step.arrival? with
      | some name => if .delete name ∈ later then standing later else name :: standing later
      | none => standing later

theorem standing_concat (steps : List Step) (step : Step) :
    standing (steps ++ [step]) = (standing steps).filter (fun name => step ≠ .delete name) ++ step.arrival?.toList := by
  induction steps with
  | nil =>
      simp only [List.nil_append, standing, List.filter_nil]
      cases step.arrival? <;> simp
  | cons first steps ih =>
      simp only [List.cons_append, standing, ih]
      cases first.arrival? with
      | none => rfl
      | some name =>
          by_cases deleted : .delete name ∈ steps
          · simp [deleted]
          · by_cases last : step = .delete name
            · subst last
              simp [deleted]
            · simp [deleted, last, Ne.symm last]

section

variable {s s' : Schema} {f : Field} {step : Step}

theorem run_concat (s : Schema) (steps : List Step) (step : Step) :
    s.run (steps ++ [step]) = (s.run steps).after step := by
  simp [run]

theorem taken_append (s : Schema) (steps more : List Step) :
    s.taken (steps ++ more) = s.taken steps ++ (s.run steps).taken more := by
  induction steps generalizing s with
  | nil => rfl
  | cons step steps ih =>
      simp only [List.cons_append, taken, run, List.foldl_cons, after]
      cases done : s.perform step with
      | ok s' => simp [ih, run]
      | error e => simp [ih, run]

/-- What holds of a schema and is kept by every step that takes place holds after every run. -/
theorem run_induction {motive : List Step → Schema → Prop} (distinct : s.names.Nodup) (start : motive [] s)
    (next : ∀ {steps : List Step} {t t' : Schema} {step : Step}, t.names.Nodup → motive steps t → t.Change step t' →
      motive (steps ++ [step]) t')
    (steps : List Step) : (s.run steps).names.Nodup ∧ motive (s.taken steps) (s.run steps) := by
  induction steps using List.reverseRecOn with
  | nil => exact ⟨distinct, start⟩
  | append_singleton steps step ih =>
      obtain ⟨distinct, held⟩ := ih
      rw [run_concat, taken_append, after, taken]
      -- A step that fails is not taken, so only the steps that change the schema have to keep the motive.
      cases done : (s.run steps).perform step with
      | error e => exact ⟨distinct, by simpa [taken] using held⟩
      | ok s' =>
          have change := change_of_perform done
          exact ⟨change.distinct distinct, next distinct held change⟩

theorem distinct_run (distinct : s.names.Nodup) (steps : List Step) : (s.run steps).names.Nodup :=
  (run_induction (motive := fun _ _ => True) distinct trivial (fun _ _ _ => trivial) steps).1

/-- What steps make of a field that is there before them. -/
def edited (f : Field) (steps : List Step) : Field := steps.foldl (fun f step => step.on f) f

/-- What every edit keeps of a field is kept by all steps. -/
theorem kept_edited (Kept : Field → Prop) (keeps : ∀ g (change : Field.Edit), Kept g → Kept (change.apply g))
    (kept : Kept f) (steps : List Step) : Kept (edited f steps) := by
  induction steps using List.reverseRecOn with
  | nil => exact kept
  | append_singleton steps step ih =>
      rw [edited, List.foldl_append]
      cases step with
      | edit name change =>
          simp only [List.foldl_cons, List.foldl_nil, Step.on]
          split
          · exact keeps _ change ih
          · exact ih
      | add g => exact ih
      | delete name => exact ih
      | recover name => exact ih

theorem sameColumn_edited (f : Field) (steps : List Step) : (edited f steps).SameColumn f :=
  kept_edited (·.SameColumn f) (fun _ change same => .trans (Field.sameColumn_apply change _) same) (.refl f) steps

/-- A schema is what a list of steps makes of an empty one. -/
structure ComesFrom (s : Schema) (steps : List Step) : Prop where
  /-- No two fields, live or deleted, have one name. -/
  distinct : s.names.Nodup
  /-- The names are those that have been added. -/
  complete : s.names.Perm ((steps.filterMap Step.added?).map (·.name))
  /-- The live fields are in the order in which they came, or came back. -/
  order : s.fieldNames = standing steps
  /-- Every field is the one that was added under its name, with the edits since then. -/
  contents : ∀ f ∈ s.fields ++ s.deleted,
    ∃ earlier g later, steps = earlier ++ .add g :: later ∧ f = edited g later ∧ f.SameColumn g

theorem complete_run (name : String) (steps : List Step) :
    (run { name := name } steps).names.Perm
      (((taken { name := name } steps).filterMap Step.added?).map (·.name)) := by
  refine (run_induction (s := { name := name })
    (motive := fun steps t => t.names.Perm ((steps.filterMap Step.added?).map (·.name))) .nil .nil ?_ steps).2
  intro steps t t' step _ held change
  refine change.names_perm.trans ?_
  rw [List.filterMap_append, List.map_append]
  refine held.append ?_
  cases step <;> exact .refl _

/-- Live fields that are not deleted stay in front and in order; behind them stand the ones that come since. -/
theorem fieldNames_run (distinct : s.names.Nodup) (steps : List Step) :
    (s.run steps).fieldNames =
      (s.fieldNames.filter fun name => .delete name ∉ s.taken steps) ++ standing (s.taken steps) := by
  refine (run_induction (s := s) (motive := fun steps t => t.fieldNames =
    (s.fieldNames.filter fun name => .delete name ∉ steps) ++ standing steps) distinct ?_ ?_ steps).2
  · simp [standing]
  · intro steps t t' step distinct held change
    rw [change.fieldNames_eq distinct, held, standing_concat, List.filter_append, List.filter_filter, List.append_assoc]
    congr 1
    apply List.filter_congr
    intro name _
    simp [Bool.and_comm, eq_comm]

theorem contents_run (name : String) (steps : List Step) :
    ∀ f ∈ (run { name := name } steps).fields ++ (run { name := name } steps).deleted,
      ∃ earlier g later, taken { name := name } steps = earlier ++ .add g :: later ∧ f = edited g later := by
  refine (run_induction (s := { name := name }) (motive := fun steps t => ∀ f ∈ t.fields ++ t.deleted,
    ∃ earlier g later, steps = earlier ++ .add g :: later ∧ f = edited g later) .nil ?_ ?_ steps).2
  · intro f member
    cases member
  · intro steps t t' step distinct held change f member
    rcases change.origin distinct member with ⟨g, inside, rfl⟩ | rfl
    · obtain ⟨earlier, h, later, rfl, rfl⟩ := held g inside
      refine ⟨earlier, h, later ++ [step], by simp, ?_⟩
      rw [edited, edited, List.foldl_append]
      rfl
    · exact ⟨steps, f, [], rfl, rfl⟩

/-- A deleted field stays as it is through any run that does not recover it. -/
theorem mem_deleted_run (distinct : s.names.Nodup) (member : f ∈ s.deleted) (steps : List Step)
    (kept : .recover f.name ∉ s.taken steps) : f ∈ (s.run steps).deleted := by
  have held := (run_induction (s := s) (motive := fun steps t => .recover f.name ∉ steps → f ∈ t.deleted) distinct
    (fun _ => member) ?_ steps).2
  · exact held kept
  · intro steps t t' step _ held change kept
    obtain ⟨before, here⟩ := not_or.1 (mt List.mem_append.2 kept)
    exact change.mem_deleted (held before) fun same => here (by simp [same])

theorem eq_of_name {g : Field} (distinct : s.names.Nodup) (member : f ∈ s.fields ++ s.deleted)
    (member' : g ∈ s.fields ++ s.deleted) (same : f.name = g.name) : f = g :=
  List.inj_on_of_nodup_map distinct member member' same

theorem delete_of_mem (distinct : s.names.Nodup) (member : f ∈ s.fields) :
    ∃ s', s.delete f.name = .ok s' ∧ s'.names.Nodup ∧ f ∈ s'.deleted := by
  obtain ⟨s', done⟩ : ∃ s', s.perform (.delete f.name) = .ok s' := perform_eq_ok_iff.2 (List.mem_map_of_mem member)
  have change := change_of_perform done
  have distinct' := change.distinct distinct
  refine ⟨s', done, distinct', ?_⟩
  generalize named : f.name = name at change
  cases change with
  | @delete g before later here =>
      have same : f = g := eq_of_name distinct (List.mem_append_left _ member) (by simp [here]) named
      simp [same]

theorem recover_of_mem (distinct : s.names.Nodup) (member : f ∈ s.deleted) :
    ∃ s', s.recover f.name = .ok s' ∧ s'.fields = s.fields ++ [f] := by
  obtain ⟨s', done⟩ : ∃ s', s.perform (.recover f.name) = .ok s' := perform_eq_ok_iff.2 (List.mem_map_of_mem member)
  have change := change_of_perform done
  refine ⟨s', done, ?_⟩
  generalize named : f.name = name at change
  cases change with
  | @recover g before later here =>
      have same : f = g := eq_of_name distinct (List.mem_append_right _ member) (by simp [here]) named
      simp [same]

theorem hasSets_edited (sets : f.HasSets) (steps : List Step) : (edited f steps).HasSets :=
  kept_edited Field.HasSets (fun _ change sets => sets.apply change) sets steps

theorem after_edit_of_fixed {edit : Field.Edit} (distinct : s.names.Nodup) (member : f ∈ s.fields)
    (fixed : edit.apply f = f) : s.after (.edit f.name edit) = s := by
  obtain ⟨s', done⟩ : ∃ s', s.perform (.edit f.name edit) = .ok s' := perform_eq_ok_iff.2 (List.mem_map_of_mem member)
  have change := change_of_perform done
  rw [after_of_perform done]
  generalize named : f.name = name at change
  cases change with
  | @edit g before later _ here =>
      have same : f = g := eq_of_name distinct (List.mem_append_left _ member) (by simp [here]) named
      rw [← same, fixed, same, ← here]

theorem mem_of_taken {steps : List Step} (member : step ∈ s.taken steps) : step ∈ steps := by
  induction steps generalizing s with
  | nil => exact member
  | cons first steps ih =>
      rw [taken] at member
      split at member
      · rcases List.mem_cons.1 member with rfl | later
        · exact List.mem_cons_self
        · exact List.mem_cons_of_mem _ (ih later)
      · exact List.mem_cons_of_mem _ (ih member)

/-- Whatever is done to a schema that starts without fields, its fields are those that have been added, under
    distinct names, in the order of their last arrivals, each with what it was added with and the edits since then.
    A field that is deleted comes back unchanged whenever it is recovered, and what is not allowed fails and changes
    nothing. -/
theorem lifecycle_keeps_fields (name : String) (steps : List Step) :
    let start : Schema := { name := name }
    let s := start.run steps
    s.ComesFrom (start.taken steps) ∧
    (∀ more, (s.run more).fieldNames =
      (s.fieldNames.filter fun name => .delete name ∉ s.taken more) ++ standing (s.taken more)) ∧
    (∀ f ∈ s.fields, ∃ deleted, s.delete f.name = .ok deleted ∧
      ∀ more, .recover f.name ∉ deleted.taken more →
        ∃ back, (deleted.run more).recover f.name = .ok back ∧ back.fields = (deleted.run more).fields ++ [f]) ∧
    (∀ step, s.Allows step → ∃ s', s.perform step = .ok s' ∧ s.Change step s' ∧ s.after step = s') ∧
    (∀ step, ¬s.Allows step → (∃ e, s.perform step = .error e) ∧ s.after step = s) ∧
    (∀ f ∈ s.fields, ∀ language synonym, (f.removeSynonym language synonym).1 = false →
      s.after (.edit f.name (.noSynonym language synonym)) = s) ∧
    ((∀ f, .add f ∈ steps → f.HasSets) → ∀ f ∈ s.fields, ∀ language synonym,
      (f.addSynonym language synonym).1 = false → s.after (.edit f.name (.newSynonym language synonym)) = s) := by
  intro start s
  have distinct : s.names.Nodup := distinct_run (s := start) .nil steps
  have contents := contents_run name steps
  refine ⟨⟨distinct, complete_run name steps, ?_, ?_⟩, fieldNames_run distinct, ?_, ?_, ?_, ?_, ?_⟩
  · exact fieldNames_run (s := start) .nil steps
  · intro f member
    obtain ⟨earlier, g, later, here, rfl⟩ := contents f member
    exact ⟨earlier, g, later, here, rfl, sameColumn_edited g later⟩
  · intro f member
    obtain ⟨deleted, done, distinct', aside⟩ := delete_of_mem distinct member
    refine ⟨deleted, done, ?_⟩
    intro more kept
    exact recover_of_mem (distinct_run distinct' more) (mem_deleted_run distinct' aside more kept)
  · intro step allowed
    obtain ⟨s', done⟩ := perform_eq_ok_iff.2 allowed
    exact ⟨s', done, change_of_perform done, after_of_perform done⟩
  · intro step forbidden
    exact perform_of_not_allows forbidden
  · intro f member language synonym unknown
    exact after_edit_of_fixed distinct member (Field.removeSynonym_of_unknown unknown)
  · intro sets f member language synonym known
    obtain ⟨earlier, g, later, here, rfl⟩ := contents f (List.mem_append_left _ member)
    -- The field is the edited form of one that was added, so its synonyms are still sets.
    have added : .add g ∈ steps := mem_of_taken (s := start) (by simp [start, here])
    exact after_edit_of_fixed distinct member (Field.addSynonym_of_known (hasSets_edited (sets g added) later) known)

/-- A salary gets a synonym and is deleted; its name stays taken, the synonym is there again after the recovery, and
    adding it once more changes nothing. -/
theorem lifecycle_keeps_fields_salary :
    let start : Schema := { name := "staff" }
    let steps : List Step := [.add (.make "salary" .number), .add (.make "name" .text),
      .edit "salary" (.newSynonym "en" "pay")]
    let s := start.run steps
    let salary : Field := { name := "salary", kind := .number, synonyms := [("en", ["pay"])] }
    s.ComesFrom steps ∧ s.fieldNames = ["salary", "name"] ∧
    (∃ deleted, s.delete "salary" = .ok deleted ∧ ∃ back,
      (deleted.run [.add (.make "salary" .text)]).recover "salary" = .ok back ∧
        back.fields = [.make "name" .text, salary]) ∧
    s.after (.edit "salary" (.newSynonym "en" "pay")) = s := by
  intro start steps s salary
  obtain ⟨comes, _, recovered, _, _, _, known⟩ := lifecycle_keeps_fields "staff" steps
  have whole : start.taken steps = steps := by decide
  have member : salary ∈ s.fields := by decide
  rw [whole] at comes
  refine ⟨comes, by decide, ?_, ?_⟩
  · obtain ⟨deleted, done, later⟩ := recovered salary member
    have taken : .recover salary.name ∉ deleted.taken [.add (.make "salary" .text)] := fun inside => by
      simpa using mem_of_taken inside
    obtain ⟨back, came, fields⟩ := later _ taken
    refine ⟨deleted, done, back, came, ?_⟩
    rw [fields]
    obtain rfl : deleted = _ := Except.ok.inj (done.symm.trans rfl)
    decide
  · refine known ?_ salary member "en" "pay" (by decide)
    intro f added entry inside
    have plain : f.synonyms = [] := by
      rcases (by simpa [steps] using added : f = .make "salary" .number ∨ f = .make "name" .text) with rfl | rfl <;> rfl
    simp [plain] at inside

end

end Schema

end Datasheet
