/-
# Questions around questions

Classes are tested by parts, so that an element around several questions, of a class such
as `ss-form-questions`, passes for a question itself and gives a field out of their parts.
Such a wrapper does no harm. The control that its field is made from is also the first
control of the question inside it, because what comes first in the whole comes first in
every part that has it, for inputs, text areas and lists one after the other. The inner
question comes later in the document, so its field takes the place of the wrapper's field.
-/

import Mathlib.Data.List.Nodup
import Questionnaire.Proofs.Form.Determination

namespace Questionnaire

open Html

/-! ## The first match of several compounds -/

/-- What is first inside a place is first inside every smaller place that it is inside of. -/
theorem Html.Place.IsFirstInside.of_isInside {outer inner first : Place} {property : Place → Prop}
    (isFirst : first.IsFirstInside outer property) (inside : inner.IsInside outer)
    (below : first.IsInside inner) : first.IsFirstInside inner property :=
  ⟨below, isFirst.2.1, fun other within => isFirst.2.2 other (within.trans inside)⟩

/-- What a compound finds first inside a place, it finds first inside every smaller place
that has it. -/
theorem Compound.head_select_of_isInside {compound : Compound} {outer inner first : Place}
    {rest : List Place} (inside : inner.IsInside outer)
    (found : compound.select [outer] = first :: rest) (below : first.IsInside inner) :
    (compound.select [inner]).head? = some first := by
  have lists := compound.listsInside_select outer fun _ => Iff.rfl
  have lists' := compound.listsInside_select inner fun _ => Iff.rfl
  rw [found] at lists
  have isFirst := lists.head_isFirst.of_isInside inside below
  have selected : first ∈ compound.select [inner] :=
    (lists'.1 first).mpr ⟨below, isFirst.2.1⟩
  obtain ⟨head, others, found'⟩ := List.exists_cons_of_ne_nil (List.ne_nil_of_mem selected)
  rw [found'] at lists' ⊢
  rw [isFirst.unique lists'.head_isFirst]
  rfl

/-- What nothing is found of inside a place is not found inside any smaller one. -/
theorem Compound.select_eq_nil_of_isInside {compound : Compound} {outer inner : Place}
    (inside : inner.IsInside outer) (nothing : compound.select [outer] = []) :
    compound.select [inner] = [] := by
  apply List.eq_nil_iff_forall_not_mem.mpr
  intro place selected
  obtain ⟨within, accepted⟩ := mem_select_singleton_iff.mp selected
  have selected' : place ∈ compound.select [outer] :=
    mem_select_singleton_iff.mpr ⟨within.trans inside, accepted⟩
  rw [nothing] at selected'
  exact List.not_mem_nil selected'

/-- Where compounds are looked for one after the other, the first match inside a place is
the first match inside every smaller place that has it. -/
theorem head_flatMap_select_of_isInside {compounds : List Compound} {outer inner first : Place}
    (inside : inner.IsInside outer)
    (isHead : (compounds.flatMap fun compound => compound.select [outer]).head? = some first)
    (below : first.IsInside inner) :
    (compounds.flatMap fun compound => compound.select [inner]).head? = some first := by
  induction compounds with
  | nil => cases isHead
  | cons compound compounds ih =>
      rw [List.flatMap_cons, List.head?_append] at isHead ⊢
      cases found : compound.select [outer] with
      | nil =>
          rw [found] at isHead
          rw [Compound.select_eq_nil_of_isInside inside found]
          exact ih isHead
      | cons head rest =>
          rw [found] at isHead
          obtain rfl : head = first := Option.some.inj isHead
          rw [Compound.head_select_of_isInside inside found below]
          rfl

namespace Extraction

/-! ## Blocks and the fields built from them -/

/-- The first control of a block, which its field is made from. -/
def primary? (block : Place) : Option Place :=
  (controls.select [block]).head?

/-- A place holds the title label of a question. -/
def IsTitle (place : Place) : Prop :=
  Text.equalIgnoringAsciiCase place.element.tag "label" = true ∧
    "ss-q-item-label".toList <:+: (place.element.attributeOrEmpty "class").toList

theorem accepts_titleLabel_iff {place : Place} :
    titleLabel.accepts place.element = true ↔ IsTitle place := by
  rw [IsTitle, ← occursIn_iff_infix]
  simp [titleLabel, Compound.accepts, Compound.wildcard, EmptyCollection.emptyCollection,
    Dictionary.empty]

/-- The first control of a wrapper is the first control of the block that has it. -/
theorem primary?_of_isInside {outer inner control : Place} (inside : inner.IsInside outer)
    (isPrimary : primary? outer = some control) (below : control.IsInside inner) :
    primary? inner = some control := by
  have looksFor : ∀ block : Place, controls.select [block] =
      [Compound.tagged "input", Compound.tagged "textarea", Compound.tagged "select"].flatMap
        fun compound => compound.select [block] := fun _ => rfl
  rw [primary?, looksFor] at isPrimary ⊢
  exact head_flatMap_select_of_isInside inside isPrimary below

/-- The id of a field is the name of the first control of its block. -/
theorem id_of_fieldOf? {block control : Place} {field : Field}
    (given : fieldOf? block = some field) (isPrimary : primary? block = some control) :
    field.id = control.element.attributeOrEmpty "name" := by
  obtain ⟨_, primary, others, _, areControls, id, _⟩ := fieldOf?_eq_some given
  rw [primary?, areControls] at isPrimary
  obtain rfl : primary = control := Option.some.inj isPrimary
  exact id

/-- A block with a title and a control gives a field. -/
theorem exists_fieldOf?_of_isTitle {block title control : Place} (inside : title.IsInside block)
    (isTitle : IsTitle title) (isPrimary : primary? block = some control) :
    ∃ field, fieldOf? block = some field := by
  apply exists_fieldOf?_iff.mpr
  constructor
  · exact List.ne_nil_of_mem
      (Compound.mem_select_singleton_iff.mpr ⟨inside, accepts_titleLabel_iff.mpr isTitle⟩)
  · exact List.ne_nil_of_mem (List.mem_of_head? isPrimary)

/-- A block is a question of a document that gives a field. -/
structure Gives (root : Element) (block : Place) (field : Field) : Prop where
  /-- The block is somewhere in the document. -/
  inside : block.IsInside root.asRoot
  /-- It is marked as a question. -/
  isQuestion : IsQuestion block
  /-- It has a title and a control, and they make the field. -/
  given : fieldOf? block = some field

/-- A field that is kept in the end was built from a block: the last question that gives a
field with its id. -/
structure IsBuiltFrom (root : Element) (field : Field) (block : Place) : Prop
    extends Gives root block field where
  /-- No later question gives the id. -/
  latest : ∀ later other, Gives root later other → block.path < later.path → other.id ≠ field.id

variable {root : Element}

/-- What blocks in document order give is collected from the last block of each id. -/
theorem mem_collect_filterMap_iff {blocks : List Place} {field : Field}
    (ascending : blocks.Pairwise (fun first second => first.path < second.path)) :
    field ∈ (blocks.filterMap fieldOf?).foldl place [] ↔
      ∃ block ∈ blocks, fieldOf? block = some field ∧
        ∀ later ∈ blocks, ∀ other, fieldOf? later = some other → block.path < later.path →
          other.id ≠ field.id := by
  have order : ∀ first second : Place, first.path < second.path → ¬ second.path < first.path :=
    fun _ _ => List.lt_asymm
  rw [mem_collect_iff, LastWith.filterMap_iff]
  constructor
  · rintro ⟨before, block, after, rfl, given, none⟩
    refine ⟨block, by simp, given, ?_⟩
    intro later member other given' behind
    exact none later ((mem_behind_iff_of_asymm order ascending).mpr ⟨member, behind⟩) other given'
  · rintro ⟨block, member, given, none⟩
    obtain ⟨before, after, rfl⟩ := List.append_of_mem member
    refine ⟨before, block, after, rfl, given, ?_⟩
    intro later behind other given'
    obtain ⟨member', after⟩ := (mem_behind_iff_of_asymm order ascending).mp behind
    exact none later member' other given' after

/-- The fields of a document are those that are built from some block. -/
theorem mem_fieldsOf_iff {field : Field} :
    field ∈ fieldsOf root ↔ ∃ block, IsBuiltFrom root field block := by
  have lists := listsInside_questionBlock root.asRoot
  rw [fieldsOf, mem_collect_filterMap_iff lists.2]
  constructor
  · rintro ⟨block, member, given, none⟩
    obtain ⟨inside, isQuestion⟩ := (lists.1 block).mp member
    refine ⟨block, ⟨inside, isQuestion, given⟩, ?_⟩
    intro later other gives behind
    exact none later ((lists.1 later).mpr ⟨gives.inside, gives.isQuestion⟩) other gives.given behind
  · rintro ⟨block, built⟩
    refine ⟨block, (lists.1 block).mpr ⟨built.inside, built.isQuestion⟩, built.given, ?_⟩
    intro later member other given behind
    obtain ⟨inside, isQuestion⟩ := (lists.1 later).mp member
    exact built.latest later other ⟨inside, isQuestion, given⟩ behind

/-- Under every id that a block gives, a field is kept. -/
theorem Gives.exists_isBuiltFrom {block : Place} {field : Field} (gives : Gives root block field) :
    ∃ kept source, IsBuiltFrom root kept source ∧ kept.id = field.id := by
  have member : field ∈ (questionBlock.select [root.asRoot]).filterMap fieldOf? :=
    List.mem_filterMap.mpr ⟨block,
      ((listsInside_questionBlock root.asRoot).1 block).mpr ⟨gives.inside, gives.isQuestion⟩,
      gives.given⟩
  obtain ⟨kept, last, same⟩ := LastWith.exists_of_mem Field.id member
  obtain ⟨source, built⟩ := mem_fieldsOf_iff.mp (mem_collect_iff.mpr last)
  exact ⟨kept, source, built, same⟩

/-- No block after the one that a field is built from gives its id. -/
theorem IsBuiltFrom.eq_or_path_lt {kept field : Field} {source block : Place}
    (built : IsBuiltFrom root kept source) (gives : Gives root block field)
    (same : field.id = kept.id) : source = block ∨ block.path < source.path := by
  rcases built.inside.eq_or_path_lt gives.inside with equal | before | after
  · exact Or.inl equal
  · exact absurd same (built.latest block field gives before)
  · exact Or.inr after

/-! ## Wrappers -/

/-- A block wraps another one: it gives a field, and the control that the field is made
from stands inside another question block, inside the first one, that has a title. -/
structure Wraps (root : Element) (outer inner : Place) : Prop where
  /-- The wrapper is a question of the document that gives a field. -/
  gives : ∃ field, Gives root outer field
  /-- The other block is inside the wrapper. -/
  nested : inner.IsInside outer
  /-- The other block is a question too. -/
  isQuestion : IsQuestion inner
  /-- The first control of the wrapper is inside the other block. -/
  shared : ∃ control, primary? outer = some control ∧ control.IsInside inner
  /-- The other block has a title. -/
  titled : ∃ title : Place, title.IsInside inner ∧ IsTitle title

namespace Wraps

variable {outer inner : Place}

theorem primary?_eq (wraps : Wraps root outer inner) : primary? inner = primary? outer := by
  obtain ⟨control, isPrimary, below⟩ := wraps.shared
  rw [isPrimary]
  exact primary?_of_isInside wraps.nested isPrimary below

/-- The inner block gives a field with the id of the wrapper's field. -/
theorem exists_gives (wraps : Wraps root outer inner) {field : Field}
    (gives : Gives root outer field) : ∃ other, Gives root inner other ∧ other.id = field.id := by
  obtain ⟨control, isPrimary, below⟩ := wraps.shared
  obtain ⟨title, inside, isTitle⟩ := wraps.titled
  have isPrimary' := primary?_of_isInside wraps.nested isPrimary below
  obtain ⟨other, given⟩ := exists_fieldOf?_of_isTitle inside isTitle isPrimary'
  refine ⟨other, ⟨wraps.nested.trans gives.inside, wraps.isQuestion, given⟩, ?_⟩
  rw [id_of_fieldOf? given isPrimary', id_of_fieldOf? gives.given isPrimary]

/-- Under the id of a wrapper's field, the field that is kept comes from the inner block or
from a later one. -/
theorem source_not_before (wraps : Wraps root outer inner) {field kept : Field} {source : Place}
    (gives : Gives root outer field) (built : IsBuiltFrom root kept source)
    (same : kept.id = field.id) : source = inner ∨ inner.path < source.path := by
  obtain ⟨other, gives', same'⟩ := wraps.exists_gives gives
  exact built.eq_or_path_lt gives' (same'.trans same.symm)

/-- No field that is kept was built from a wrapper. -/
theorem not_isBuiltFrom (wraps : Wraps root outer inner) (field : Field) :
    ¬ IsBuiltFrom root field outer := by
  intro built
  rcases wraps.source_not_before built.toGives built rfl with rfl | before
  · exact List.lt_irrefl _ wraps.nested.path_lt
  · exact List.lt_asymm before wraps.nested.path_lt

end Wraps

/-- Leaving out wrappers, all of them or some, does not change which fields are kept. -/
theorem mem_collect_of_wrappers_dropped {blocks kept : List Place} {field : Field}
    (lists : root.asRoot.ListsInside IsQuestion blocks) (sublist : kept.Sublist blocks)
    (dropped : ∀ block ∈ blocks, block ∉ kept → ∃ inner, Wraps root block inner) :
    field ∈ (kept.filterMap fieldOf?).foldl place [] ↔ field ∈ fieldsOf root := by
  have stays : ∀ {source other}, IsBuiltFrom root other source → source ∈ kept := by
    intro source other built
    by_contra missing
    have member := (lists.1 source).mpr ⟨built.inside, built.isQuestion⟩
    obtain ⟨inner, wraps⟩ := dropped source member missing
    exact wraps.not_isBuiltFrom other built
  have gives : ∀ {block other}, block ∈ kept → fieldOf? block = some other →
      Gives root block other := by
    intro block other member given
    obtain ⟨inside, isQuestion⟩ := (lists.1 block).mp (sublist.subset member)
    exact ⟨inside, isQuestion, given⟩
  rw [mem_collect_filterMap_iff (lists.2.sublist sublist), mem_fieldsOf_iff]
  constructor
  · rintro ⟨block, member, given, none⟩
    -- The block that the kept field of this id is built from is no wrapper, so it is left,
    -- and no block that is left comes after the one at hand.
    obtain ⟨other, source, built, same⟩ := (gives member given).exists_isBuiltFrom
    rcases built.eq_or_path_lt (gives member given) same.symm with rfl | before
    · obtain rfl : other = field := Option.some.inj (built.given.symm.trans given)
      exact ⟨source, built⟩
    · exact absurd same (none source (stays built) other built.given before)
  · rintro ⟨block, built⟩
    refine ⟨block, stays built, built.given, ?_⟩
    intro later member other given behind
    exact built.latest later other (gives member given) behind

/-- Wrappers give way to the questions inside them. The fields of a document are those that
are built from some block, the last one of their id. Where a block wraps another one, the
two have one first control, the inner block gives a field with the id of the wrapper's
field, and the field that is kept under this id is built from the inner block or a later
one, but not from the wrapper. The fields that are kept when wrappers are left out of the
list of blocks are the same, up to their order. -/
theorem wrappers_give_way (root : Element) :
    (∀ field, field ∈ fieldsOf root ↔ ∃ block, IsBuiltFrom root field block) ∧
    (∀ outer inner, Wraps root outer inner → ∀ field, fieldOf? outer = some field →
      primary? inner = primary? outer ∧
      (∃ other, fieldOf? inner = some other ∧ other.id = field.id) ∧
      (∃ kept source, IsBuiltFrom root kept source ∧ kept.id = field.id) ∧
      ∀ kept source, IsBuiltFrom root kept source → kept.id = field.id →
        (source = inner ∨ inner.path < source.path) ∧ source ≠ outer) ∧
    ∀ blocks kept : List Place, root.asRoot.ListsInside IsQuestion blocks → kept.Sublist blocks →
      (∀ block ∈ blocks, block ∉ kept → ∃ inner, Wraps root block inner) →
      ((kept.filterMap fieldOf?).foldl place []).Perm (fieldsOf root) := by
  refine ⟨fun field => mem_fieldsOf_iff, ?_, ?_⟩
  · intro outer inner wraps field given
    obtain ⟨field', gives⟩ := wraps.gives
    obtain rfl : field' = field := Option.some.inj (gives.given.symm.trans given)
    obtain ⟨other, gives', same⟩ := wraps.exists_gives gives
    refine ⟨wraps.primary?_eq, ⟨other, gives'.given, same⟩, gives.exists_isBuiltFrom, ?_⟩
    intro kept source built same
    refine ⟨wraps.source_not_before gives built same, ?_⟩
    rintro rfl
    exact wraps.not_isBuiltFrom kept built
  · intro blocks kept lists sublist dropped
    have distinct : ∀ found : List Field, (found.foldl place []).Nodup :=
      fun found => List.Nodup.of_map Field.id (collect_distinct found)
    exact (List.perm_ext_iff_of_nodup (distinct _) (distinct _)).mpr fun field =>
      mem_collect_of_wrappers_dropped lists sublist dropped

/-- A question with two buttons. -/
def buttonsBlock : Element :=
  ⟨"div", [("class", "ss-form-question")],
    [.element "label" [("class", "ss-q-item-label")] [.text "Size"],
      .element "input" [("name", "1"), ("type", "radio"), ("value", "S")] [],
      .element "input" [("name", "1"), ("type", "radio"), ("value", "M")] []]⟩

/-- A question for a text. -/
def textBlock : Element :=
  ⟨"div", [("class", "ss-form-question")],
    [.element "label" [("class", "ss-q-item-label")] [.text "Name"],
      .element "input" [("name", "2"), ("type", "text")] []]⟩

/-- An element around both, of a class that contains the mark of questions. -/
def wrapperBlock : Element :=
  ⟨"div", [("class", "ss-form-questions")], [buttonsBlock.toNode, textBlock.toNode]⟩

/-- The page with these questions. -/
def wrapperPage : Element :=
  ⟨"html", [], [.element "form" [("action", "/answers")] [wrapperBlock.toNode]]⟩

theorem wraps_wrapperBlock :
    Wraps wrapperPage ⟨[0, 0], wrapperBlock⟩ ⟨[0, 0, 0], buttonsBlock⟩ where
  gives := ⟨⟨"1", "Size", "Size", false, .radio ["S", "M", ""]⟩,
    ⟨[0, 0], by decide, rfl, rfl⟩,
    (Compound.accepts_classed_iff _ _).mp (by decide +kernel), by decide +kernel⟩
  nested := ⟨[0], by decide, rfl, rfl⟩
  isQuestion := (Compound.accepts_classed_iff _ _).mp (by decide +kernel)
  shared := ⟨⟨[0, 0, 0, 1], "input", [("name", "1"), ("type", "radio"), ("value", "S")], []⟩,
    rfl, [1], by decide, rfl, rfl⟩
  titled := ⟨⟨[0, 0, 0, 0], "label", [("class", "ss-q-item-label")], [.text "Size"]⟩,
    ⟨[0], by decide, rfl, rfl⟩, accepts_titleLabel_iff.mp (by decide +kernel)⟩

/-- The wrapper gives a field that offers the text control as a third button, but the field
that is kept under this id is the one of the buttons. -/
theorem wrappers_give_way_wrapperPage :
    Wraps wrapperPage ⟨[0, 0], wrapperBlock⟩ ⟨[0, 0, 0], buttonsBlock⟩ ∧
      fieldOf? ⟨[0, 0], wrapperBlock⟩ =
        some ⟨"1", "Size", "Size", false, .radio ["S", "M", ""]⟩ ∧
      (∃ other, fieldOf? ⟨[0, 0, 0], buttonsBlock⟩ = some other ∧ other.id = "1") ∧
      ([⟨[0, 0, 0], buttonsBlock⟩, ⟨[0, 0, 1], textBlock⟩].filterMap fieldOf?
        |>.foldl place []).Perm (fieldsOf wrapperPage) := by
  obtain ⟨-, nested, dropping⟩ := wrappers_give_way wrapperPage
  have given : fieldOf? ⟨[0, 0], wrapperBlock⟩ =
      some ⟨"1", "Size", "Size", false, .radio ["S", "M", ""]⟩ := by decide +kernel
  obtain ⟨-, inner, -⟩ := nested _ _ wraps_wrapperBlock _ given
  have blocks : questionBlock.select [wrapperPage.asRoot] =
      [⟨[0, 0], wrapperBlock⟩, ⟨[0, 0, 0], buttonsBlock⟩, ⟨[0, 0, 1], textBlock⟩] := by
    rfl
  have lists := listsInside_questionBlock wrapperPage.asRoot
  rw [blocks] at lists
  refine ⟨wraps_wrapperBlock, given, inner, dropping _ _ lists (List.sublist_cons_self _ _) ?_⟩
  intro block member missing
  rcases List.mem_cons.mp member with rfl | rest
  · exact ⟨_, wraps_wrapperBlock⟩
  · exact absurd rest missing

end Extraction

end Questionnaire
