/-
# The name map of a form

Two rules of replacement meet in a form. A question block whose id was seen before gives
the field at the old position, and of several fields with one name the last one in the
collection stands for the name. What is last in the collection need not come from the
last block of the document. The name map knows the fields that are left in the end and
nothing of those that were replaced. Its law that the name of a field leads to its id
holds exactly for the fields that no later one shadows.
-/

import Questionnaire.Proofs.Form.Names

namespace Questionnaire

open Html

/-- The names that a name map knows are the names of its fields. -/
theorem NameMap.keys_ofFields (fields : List Field) :
    (NameMap.ofFields fields).keys = (fields.map Field.name).toFinset := by
  rw [NameMap.ofFields, Dictionary.keys_ofList, List.map_map]
  rfl

namespace Form

variable {form : Form}

/-- A name is known if a field has it. -/
theorem mem_keys_names_iff {name : String} :
    name ∈ form.names.keys ↔ ∃ field ∈ form.fields, field.name = name := by
  rw [names, NameMap.keys_ofFields, List.mem_toFinset, List.mem_map]

/-- Blocks give a name if it is the name of a field whose id no later block gives. -/
theorem mem_keys_names_iff_latest {root : Element} (read : ofTree? root = some form)
    {blocks : List Place} (lists : root.asRoot.ListsInside Extraction.IsQuestion blocks)
    {name : String} :
    name ∈ form.names.keys ↔
      ∃ field, LastWith Field.id field (blocks.filterMap Extraction.fieldOf?) ∧
        field.name = name := by
  have collected : form.fields =
      (blocks.filterMap Extraction.fieldOf?).foldl Extraction.place [] := by
    rw [(ofTree?_eq_some read).2]
    exact Extraction.isCollectionOf_iff.mp (Extraction.isCollectionOf_fieldsOf lists)
  simp only [mem_keys_names_iff, collected, Extraction.mem_collect_iff]

/-- A name map has as many entries as there are different names. -/
theorem size_names : form.names.size = (form.fields.map Field.name).toFinset.card := by
  rw [← Dictionary.card_keys, names, NameMap.keys_ofFields]

theorem size_names_eq_length_iff :
    form.names.size = form.fields.length ↔ (form.fields.map Field.name).Nodup := by
  rw [size_names, ← List.length_map (f := Field.name)]
  exact Multiset.toFinset_card_eq_card_iff_nodup

/-- The name map of a form that was read from a document. Its names are those of the
fields in the collection, so that no name of a replaced field is left, and each leads to
the id of the last field in the collection that has it. The name of a field leads to its
id, and any name at all does, exactly if no later field has the same name. There are as
many entries as different names, and as many as fields only if all names differ. -/
theorem names_match_fields {root : Element} (read : ofTree? root = some form) :
    (∀ name, (name ∈ form.names.keys ↔ ∃ field ∈ form.fields, field.name = name) ∧
      ∀ blocks, root.asRoot.ListsInside Extraction.IsQuestion blocks →
        (name ∈ form.names.keys ↔
          ∃ field, LastWith Field.id field (blocks.filterMap Extraction.fieldOf?) ∧
            field.name = name)) ∧
    (∀ name id, form.names.get? name = some id ↔
      ∃ field, LastWith Field.name field form.fields ∧ field.name = name ∧ field.id = id) ∧
    (∀ field ∈ form.fields,
      (form.names.get? field.name = some field.id ↔ ¬ form.IsShadowed field) ∧
      ((∃ name, form.names.get? name = some field.id) ↔ ¬ form.IsShadowed field)) ∧
    form.names.size = (form.fields.map Field.name).toFinset.card ∧
    (form.names.size = form.fields.length ↔ (form.fields.map Field.name).Nodup) := by
  have distinct := ids_distinct read
  refine ⟨?_, ?_, ?_, size_names, size_names_eq_length_iff⟩
  · intro name
    exact ⟨mem_keys_names_iff, fun blocks lists => mem_keys_names_iff_latest read lists⟩
  · intro name id
    exact NameMap.get?_ofFields_eq_some_iff
  · intro field member
    exact ⟨get?_names_iff distinct member, exists_name_iff distinct member⟩

/-- A question block with a title and one text control. -/
def textQuestion (id title : String) : Node :=
  .element "div" [("class", "ss-form-question")]
    [.element "label" [("class", "ss-q-item-label")] [.text title],
      .element "input" [("name", id), ("type", "text")] []]

/-- A page whose last question takes the place of its first one, under the name of the
second. -/
def renamingPage : Element :=
  ⟨"html", [], [.element "form" [("action", "/answers")]
    [textQuestion "1" "Age", textQuestion "2" "Size", textQuestion "1" "Size"]]⟩

/-- The form of this page. -/
def renamingForm : Form :=
  ⟨"/answers", [⟨"1", "Size", "Size", false, .text none⟩, ⟨"2", "Size", "Size", false, .text none⟩]⟩

theorem ofTree?_renamingPage : ofTree? renamingPage = some renamingForm := by
  decide +kernel

/-- On this page no name leads to the last question, although it has the name `Size`, and
nothing is left of the name `Age`. -/
theorem names_match_fields_renamingForm :
    ofTree? renamingPage = some renamingForm ∧ "Age" ∉ renamingForm.names.keys ∧
      renamingForm.names.get? "Size" = some "2" ∧
      (¬ ∃ name, renamingForm.names.get? name = some "1") ∧ renamingForm.names.size = 1 := by
  obtain ⟨known, leads, fields, size, -⟩ := names_match_fields ofTree?_renamingPage
  have last : LastWith Field.name ⟨"2", "Size", "Size", false, .text none⟩ renamingForm.fields :=
    ⟨[⟨"1", "Size", "Size", false, .text none⟩], [], rfl, by simp⟩
  have shadowed : renamingForm.IsShadowed ⟨"1", "Size", "Size", false, .text none⟩ :=
    ⟨[], [⟨"2", "Size", "Size", false, .text none⟩], rfl, _, List.mem_singleton_self _, rfl⟩
  refine ⟨ofTree?_renamingPage, ?_, (leads "Size" "2").mpr ⟨_, last, rfl, rfl⟩, ?_, size⟩
  · rw [(known "Age").1]
    decide
  · intro reached
    exact (fields _ List.mem_cons_self).2.mp reached shadowed

end Form

end Questionnaire
