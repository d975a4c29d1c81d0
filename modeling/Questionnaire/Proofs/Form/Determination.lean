/-
# The form of a document

What a form is read from a document is said here without reference to how it is
read: the address comes from the form element that stands first, and the fields
come from the question blocks, all of them found by their paths. A document
determines its form, so the description and the reader agree on every tree.
-/

import Questionnaire.Form
import Questionnaire.Proofs.Extraction.Collection
import Questionnaire.Proofs.Extraction.FieldShape
import Questionnaire.Proofs.Selector.Match

namespace Questionnaire

open Html

/-- A place holds a form element, in whatever case its tag is written. -/
def Extraction.IsForm (place : Place) : Prop :=
  Text.equalIgnoringAsciiCase place.element.tag "form" = true

/-- A place holds a question block: its class attribute, empty where there is none,
contains the mark of questions. -/
def Extraction.IsQuestion (place : Place) : Prop :=
  "ss-form-question".toList <:+: (place.element.attributeOrEmpty "class").toList

/-- A place inside a root is the first one there with a property. -/
def Html.Place.IsFirstInside (first root : Place) (property : Place → Prop) : Prop :=
  first.IsInside root ∧ property first ∧
    ∀ other : Place, other.IsInside root → property other → other = first ∨ first.path < other.path

/-- A list holds the places inside a root that have a property, in document order. -/
def Html.Place.ListsInside (root : Place) (property : Place → Prop) (places : List Place) : Prop :=
  (∀ place, place ∈ places ↔ place.IsInside root ∧ property place) ∧
    places.Pairwise (fun first second => first.path < second.path)

/-- What it means that a form is the form of a document. -/
structure Form.IsReadFrom (form : Form) (root : Element) : Prop where
  /-- The address is the action of the first form element, and empty where that has
  none. -/
  address : ∃ first : Place, first.IsFirstInside root.asRoot Extraction.IsForm ∧
    form.url = (first.element.attribute? "action").getD ""
  /-- The fields are collected from the question blocks that give one. -/
  collection : ∃ blocks, root.asRoot.ListsInside Extraction.IsQuestion blocks ∧
    Extraction.IsCollectionOf (blocks.filterMap Extraction.fieldOf?) form.fields
  /-- Every field is found by its id. -/
  found_by_id : ∀ field ∈ form.fields, form.field? field.id = some field
  /-- No id that a question block gives is lost. -/
  no_id_lost : ∀ block : Place, block.IsInside root.asRoot → Extraction.IsQuestion block →
    ∀ field, Extraction.fieldOf? block = some field → ∃ kept ∈ form.fields, kept.id = field.id

namespace Html.Place

/-- Places in document order do not repeat. -/
theorem nodup_of_ascending {places : List Place}
    (ascending : places.Pairwise (fun first second => first.path < second.path)) :
    places.Nodup := by
  apply ascending.imp
  intro first second before same
  exact List.lt_irrefl second.path (same ▸ before)

/-- Only one list holds the places with a property in document order. -/
theorem ListsInside.unique {root : Place} {property : Place → Prop} {first second : List Place}
    (lists : root.ListsInside property first) (lists' : root.ListsInside property second) :
    first = second := by
  have same : first.Perm second :=
    (List.perm_ext_iff_of_nodup (nodup_of_ascending lists.2) (nodup_of_ascending lists'.2)).mpr
      fun place => (lists.1 place).trans (lists'.1 place).symm
  exact same.eq_of_pairwise
    (fun _ _ _ _ before after => absurd after (List.lt_asymm before)) lists.2 lists'.2

/-- Only one place is the first one with a property. -/
theorem IsFirstInside.unique {root first other : Place} {property : Place → Prop}
    (isFirst : first.IsFirstInside root property) (isFirst' : other.IsFirstInside root property) :
    first = other := by
  rcases isFirst'.2.2 first isFirst.1 isFirst.2.1 with same | after
  · exact same
  · rcases isFirst.2.2 other isFirst'.1 isFirst'.2.1 with same | before
    · exact same.symm
    · exact absurd after (List.lt_asymm before)

/-- The head of a list of places in document order is the first one of them. -/
theorem ListsInside.head_isFirst {root first : Place} {property : Place → Prop}
    {rest : List Place} (lists : root.ListsInside property (first :: rest)) :
    first.IsFirstInside root property := by
  obtain ⟨inside, holds⟩ := (lists.1 first).mp List.mem_cons_self
  refine ⟨inside, holds, ?_⟩
  intro other inside' holds'
  rcases List.mem_cons.mp ((lists.1 other).mpr ⟨inside', holds'⟩) with here | below
  · exact Or.inl here
  · exact Or.inr ((List.pairwise_cons.mp lists.2).1 other below)

end Html.Place

/-- A compound lists the places inside a root that pass it. -/
theorem Compound.listsInside_select (compound : Compound) (root : Place) {property : Place → Prop}
    (means : ∀ place : Place, compound.accepts place.element = true ↔ property place) :
    root.ListsInside property (compound.select [root]) :=
  ⟨fun place => mem_select_singleton_iff.trans (and_congr_right' (means place)),
    select_singleton_ascending compound root⟩

namespace Extraction

theorem listsInside_formElement (root : Place) :
    root.ListsInside IsForm (formElement.select [root]) :=
  formElement.listsInside_select root fun place => by simp [formElement, IsForm]

theorem listsInside_questionBlock (root : Place) :
    root.ListsInside IsQuestion (questionBlock.select [root]) :=
  questionBlock.listsInside_select root fun place =>
    Compound.accepts_classed_iff "ss-form-question" place.element

/-- The fields of a document are the collection of what its question blocks give. -/
theorem isCollectionOf_fieldsOf {root : Element} {blocks : List Place}
    (lists : root.asRoot.ListsInside IsQuestion blocks) :
    IsCollectionOf (blocks.filterMap fieldOf?) (fieldsOf root) := by
  rw [lists.unique (listsInside_questionBlock root.asRoot)]
  exact isCollectionOf_iff.mpr rfl

end Extraction

namespace Form

/-- A document has no form where nothing inside it is a form element. -/
theorem ofTree?_eq_none_iff {root : Element} :
    ofTree? root = none ↔
      ∀ place : Place, place.IsInside root.asRoot → ¬ Extraction.IsForm place := by
  have lists := Extraction.listsInside_formElement root.asRoot
  rw [ofTree?, Option.map_eq_none_iff, List.head?_eq_none_iff]
  constructor
  · intro nothing place inside isForm
    have member := (lists.1 place).mpr ⟨inside, isForm⟩
    rw [nothing] at member
    exact List.not_mem_nil member
  · intro nothing
    apply List.eq_nil_iff_forall_not_mem.mpr
    intro place member
    obtain ⟨inside, isForm⟩ := (lists.1 place).mp member
    exact nothing place inside isForm

/-- What the reader of forms gives. -/
theorem ofTree?_eq_some {root : Element} {form : Form} (read : ofTree? root = some form) :
    (∃ first : Place, first.IsFirstInside root.asRoot Extraction.IsForm ∧
      form.url = (first.element.attribute? "action").getD "") ∧
    form.fields = Extraction.fieldsOf root := by
  rw [ofTree?, Option.map_eq_some_iff] at read
  obtain ⟨first, isHead, rfl⟩ := read
  obtain ⟨rest, found⟩ := List.head?_eq_some_iff.mp isHead
  have lists := Extraction.listsInside_formElement root.asRoot
  rw [found] at lists
  exact ⟨⟨first, lists.head_isFirst, rfl⟩, rfl⟩

/-- The fields of a form that was read have distinct ids. -/
theorem ids_distinct {root : Element} {form : Form} (read : ofTree? root = some form) :
    (form.fields.map Field.id).Nodup := by
  rw [(ofTree?_eq_some read).2]
  exact Extraction.collect_distinct _

/-- The lists of a form that was read offer no empty value. -/
theorem ne_empty_of_select {root : Element} {form : Form} (read : ofTree? root = some form)
    {field : Field} (member : field ∈ form.fields) {values : List String}
    (isSelect : field.kind = .select values) : "" ∉ values := by
  rw [(ofTree?_eq_some read).2] at member
  obtain ⟨block, _, given⟩ := List.mem_filterMap.mp (Extraction.mem_collect_iff.mp member).mem
  exact Extraction.ne_empty_of_fieldOf?_select given isSelect

/-- The names of the fields of a form that was read are single lines. -/
theorem newline_not_mem_name {root : Element} {form : Form} (read : ofTree? root = some form)
    {field : Field} (member : field ∈ form.fields) : '\n' ∉ field.name.toList := by
  rw [(ofTree?_eq_some read).2] at member
  obtain ⟨block, _, given⟩ := List.mem_filterMap.mp (Extraction.mem_collect_iff.mp member).mem
  exact Extraction.newline_not_mem_name given

/-- The form that is read from a document is its form. -/
theorem isReadFrom_of_ofTree? {root : Element} {form : Form} (read : ofTree? root = some form) :
    form.IsReadFrom root := by
  obtain ⟨address, fields⟩ := ofTree?_eq_some read
  have lists := Extraction.listsInside_questionBlock root.asRoot
  have collected := Extraction.isCollectionOf_fieldsOf lists
  rw [← fields] at collected
  constructor
  case address => exact address
  case collection => exact ⟨_, lists, collected⟩
  case found_by_id =>
    intro field member
    exact Extraction.find?_id_of_mem collected.distinct member
  case no_id_lost =>
    intro block inside isQuestion field given
    have selected : block ∈ Extraction.questionBlock.select [root.asRoot] :=
      (lists.1 block).mpr ⟨inside, isQuestion⟩
    obtain ⟨kept, last, same⟩ :=
      LastWith.exists_of_mem Field.id (List.mem_filterMap.mpr ⟨block, selected, given⟩)
    exact ⟨kept, fields ▸ Extraction.mem_collect_iff.mpr last, same⟩

/-- Reading a document fails exactly where nothing inside it is a form element, and
otherwise gives the one form that the document determines. -/
theorem ofTree?_determined (root : Element) :
    (ofTree? root = none ↔
      ∀ place : Place, place.IsInside root.asRoot → ¬ Extraction.IsForm place) ∧
    ∀ form : Form, ofTree? root = some form ↔ form.IsReadFrom root := by
  refine ⟨ofTree?_eq_none_iff, ?_⟩
  intro form
  refine ⟨isReadFrom_of_ofTree?, ?_⟩
  intro described
  obtain ⟨first, isFirst, url⟩ := described.address
  obtain ⟨blocks, lists, collected⟩ := described.collection
  cases read : ofTree? root with
  | none => exact absurd isFirst.2.1 (ofTree?_eq_none_iff.mp read first isFirst.1)
  | some other =>
      obtain ⟨⟨first', isFirst', url'⟩, fields'⟩ := ofTree?_eq_some read
      have sameUrl : other.url = form.url := by
        rw [url', url, isFirst'.unique isFirst]
      have sameFields : other.fields = form.fields := by
        rw [fields', Extraction.isCollectionOf_iff.mp (Extraction.isCollectionOf_fieldsOf lists),
          Extraction.isCollectionOf_iff.mp collected]
      obtain ⟨_, _⟩ := other
      obtain ⟨_, _⟩ := form
      rw [Option.some.injEq, Form.mk.injEq]
      exact ⟨sameUrl, sameFields⟩

end Form

end Questionnaire
