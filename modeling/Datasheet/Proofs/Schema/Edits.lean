import Datasheet.Proofs.Text.Collections
import Datasheet.Schema

/-! # Edits of fields

A caller can rename a field, give it synonyms, take them away and make it a key. What the field says of its column
stays as it is. The synonyms of each language stay a set, and a change of synonyms that is answered with false
changes nothing.
-/

namespace Datasheet

namespace Field

/-- What a caller can change in a live field. -/
inductive Edit where
  | key (isKey : Bool)
  | readableName (language name : String)
  | newSynonym (language synonym : String)
  | noSynonym (language synonym : String)
  deriving DecidableEq, Repr

def Edit.apply : Edit → Field → Field
  | .key isKey, f => f.setKey isKey
  | .readableName language name, f => f.setReadableName language name
  | .newSynonym language synonym, f => (f.addSynonym language synonym).2
  | .noSynonym language synonym, f => (f.removeSynonym language synonym).2

/-- Two fields say the same of a column: its name and all that has been learned from its cells. -/
structure SameColumn (f g : Field) : Prop where
  name : f.name = g.name
  kind : f.kind = g.kind
  distinct : f.distinct = g.distinct
  categorical : f.categorical = g.categorical
  mainValues : f.mainValues = g.mainValues

theorem SameColumn.refl (f : Field) : f.SameColumn f := ⟨rfl, rfl, rfl, rfl, rfl⟩

theorem SameColumn.trans {f g h : Field} (first : f.SameColumn g) (second : g.SameColumn h) : f.SameColumn h :=
  ⟨first.name.trans second.name, first.kind.trans second.kind, first.distinct.trans second.distinct,
    first.categorical.trans second.categorical, first.mainValues.trans second.mainValues⟩

/-- An edit changes what a field is called and not what is known of its column. -/
theorem sameColumn_apply (edit : Edit) (f : Field) : (edit.apply f).SameColumn f := by
  cases edit with
  | key isKey => exact ⟨rfl, rfl, rfl, rfl, rfl⟩
  | readableName language name => exact ⟨rfl, rfl, rfl, rfl, rfl⟩
  | newSynonym language synonym => exact ⟨rfl, rfl, rfl, rfl, rfl⟩
  | noSynonym language synonym =>
      simp only [Edit.apply, removeSynonym]
      split
      · exact .refl f
      · exact ⟨rfl, rfl, rfl, rfl, rfl⟩

/-! ## Synonyms -/

section

variable {f : Field} {language synonym : String}

/-- The synonyms of each language are a set. -/
def HasSets (f : Field) : Prop := ∀ entry ∈ f.synonyms, StringSet.IsAscending entry.2

theorem isAscending_synonymsIn (sets : f.HasSets) (language : String) : StringSet.IsAscending (f.synonymsIn language) := by
  rw [synonymsIn]
  cases found : Dictionary.get? language f.synonyms with
  | none => exact .nil
  | some known => exact sets _ (Dictionary.mem_of_get? found)

theorem HasSets.apply (sets : f.HasSets) (edit : Edit) : (edit.apply f).HasSets := by
  cases edit with
  | key isKey => exact sets
  | readableName language name => exact sets
  | newSynonym language synonym =>
      intro entry member
      rcases Dictionary.mem_put member with rfl | inside
      · exact (isAscending_synonymsIn sets language).insert synonym
      · exact sets entry inside
  | noSynonym language synonym =>
      simp only [Edit.apply, removeSynonym]
      split
      · exact sets
      · next known found =>
          intro entry member
          rcases Dictionary.mem_put member with rfl | inside
          · exact (sets _ (Dictionary.mem_of_get? found)).remove synonym
          · exact sets entry inside

theorem addSynonym_of_known (sets : f.HasSets) (known : (f.addSynonym language synonym).1 = false) :
    (f.addSynonym language synonym).2 = f := by
  have member : synonym ∈ f.synonymsIn language := by simpa [addSynonym] using known
  have unchanged := StringSet.insert_of_mem (isAscending_synonymsIn sets language) member
  simp only [addSynonym, unchanged]
  cases found : Dictionary.get? language f.synonyms with
  | none => simp [synonymsIn, found] at member
  | some known =>
      have here : f.synonymsIn language = known := by simp [synonymsIn, found]
      rw [here, Dictionary.put_of_get? found]

theorem removeSynonym_of_unknown (unknown : (f.removeSynonym language synonym).1 = false) :
    (f.removeSynonym language synonym).2 = f := by
  simp only [removeSynonym] at unknown ⊢
  split at unknown
  · rfl
  · next known found =>
      have foreign : synonym ∉ known := by simpa using unknown
      simp only [StringSet.remove_of_not_mem foreign, Dictionary.put_of_get? found]

end

end Field

end Datasheet
