/-
# Noise in a document

A document can change in ways that mean nothing to the reader of forms: comments come and
go, a text is one node or several, and somewhere outside all questions a subtree is put in
that has neither a form nor a question in it. Each such edit is made among the children of
one element. The edits are followed from there up to the root, with an invariant for each of
two cases. Inside a question, the outlines of all elements stay as they are, so that the
field of the question does. Outside, what forms and questions contribute to the form does.
-/

import Mathlib.Logic.Relation
import Questionnaire.Proofs.Extraction.Outline
import Questionnaire.Proofs.Form.Determination

namespace Questionnaire

open Html

namespace Extraction

/-- No element of a node, the node itself included, is a form element or a question. -/
def IsHarmless (node : Node) : Prop :=
  ∀ numbers element, node.descend? numbers = some element →
    ¬ IsForm element.asRoot ∧ ¬ IsQuestion element.asRoot

/-- One edit among consecutive nodes or inside one of them. The parameter says whether the
nodes stand inside a question. -/
inductive Edit : Prop → List Node → List Node → Prop
  /-- A comment is put in. -/
  | comment {inQuestion : Prop} (content : String) (before after : List Node) :
    Edit inQuestion (before ++ after) (before ++ .comment content :: after)
  /-- A text is cut in two. -/
  | text {inQuestion : Prop} (first second : String) (before after : List Node) :
    Edit inQuestion (before ++ .text (first ++ second) :: after)
      (before ++ .text first :: .text second :: after)
  /-- Outside all questions, a subtree is put in. -/
  | subtree {inQuestion : Prop} (node : Node) (before after : List Node) :
    ¬ inQuestion → IsHarmless node → Edit inQuestion (before ++ after) (before ++ node :: after)
  /-- An edit is made among the children of an element, which may be a question. -/
  | inside {inQuestion : Prop} (tag : String) (attributes : List (String × String))
    {children edited : List Node} (before after : List Node) :
    Edit (inQuestion ∨ IsQuestion (Element.asRoot ⟨tag, attributes, children⟩)) children edited →
    Edit inQuestion (before ++ .element tag attributes children :: after)
      (before ++ .element tag attributes edited :: after)

/-- A document is edited below its root, which counts as no question itself. -/
def IsEdited (root edited : Element) : Prop :=
  edited.tag = root.tag ∧ edited.attributes = root.attributes ∧
    Edit False root.children edited.children

/-! ## Inside questions -/

theorem outlinesOf_append (nodes others : List Node) :
    outlinesOf (nodes ++ others) = outlinesOf nodes ++ outlinesOf others := by
  rw [outlinesOf, elementsOfAll_append, List.map_append]
  rfl

/-- The outlines of an element and of what is inside it come before those of what follows. -/
theorem outlinesOf_element_cons (tag : String) (attributes : List (String × String))
    (children rest : List Node) :
    outlinesOf (.element tag attributes children :: rest) =
      outlineOf ⟨tag, attributes, children⟩ :: (outlinesOf children ++ outlinesOf rest) := by
  rw [outlinesOf, elementsOfAll, Node.elements, List.cons_append, List.map_cons, List.map_append]
  rfl

/-- An element is seen as before if all of its text is there and the same is seen of what is
inside it. -/
theorem outlineOf_congr {tag : String} {attributes : List (String × String)}
    {children edited : List Node} (text : charactersOfAll children = charactersOfAll edited)
    (same : outlinesOf children = outlinesOf edited) :
    outlineOf ⟨tag, attributes, children⟩ = outlineOf ⟨tag, attributes, edited⟩ := by
  have inside := congrArg (List.map Outline.bare) same
  rw [outlinesOf, outlinesOf, List.map_map, List.map_map] at inside
  exact Outline.ext rfl text inside

/-- Inside a question, no edit changes the text or the outlines of elements. -/
theorem Edit.keeps_outlines {inQuestion : Prop} {nodes edited : List Node}
    (edit : Edit inQuestion nodes edited) (isInside : inQuestion) :
    charactersOfAll nodes = charactersOfAll edited ∧ outlinesOf nodes = outlinesOf edited := by
  induction edit with
  | comment content before after =>
      rw [charactersOfAll_append, charactersOfAll_append, outlinesOf_append, outlinesOf_append]
      exact ⟨rfl, rfl⟩
  | text first second before after =>
      rw [charactersOfAll_append, charactersOfAll_append, outlinesOf_append, outlinesOf_append]
      refine ⟨?_, rfl⟩
      simp only [charactersOfAll, Node.characters, String.toList_append, List.append_assoc]
  | subtree node before after outside => exact absurd isInside outside
  | @inside _ tag attributes children edited before after _ ih =>
      obtain ⟨text, same⟩ := ih (Or.inl isInside)
      rw [charactersOfAll_append, charactersOfAll_append, outlinesOf_append, outlinesOf_append,
        outlinesOf_element_cons, outlinesOf_element_cons, outlineOf_congr text same, same]
      refine ⟨?_, rfl⟩
      rw [charactersOfAll, charactersOfAll, Node.characters, Node.characters, text]

/-! ## Outside questions -/

/-- What elements give is not touched by noise: an element that is no form element and no
question gives nothing, and other children make no difference to what an element gives,
except for a question of which something else is seen then. -/
structure IgnoresNoise {α : Type} (give : Element → Option α) : Prop where
  harmless : ∀ element : Element, ¬ IsForm element.asRoot → ¬ IsQuestion element.asRoot →
    give element = none
  respects : ∀ tag attributes children edited,
    (IsQuestion (Element.asRoot ⟨tag, attributes, children⟩) →
      outlinesOf children = outlinesOf edited) →
    give ⟨tag, attributes, children⟩ = give ⟨tag, attributes, edited⟩

section Gathering

variable {α : Type} {give : Element → Option α}

theorem isHarmless_iff {node : Node} :
    IsHarmless node ↔
      ∀ element ∈ node.elements, ¬ IsForm element.asRoot ∧ ¬ IsQuestion element.asRoot := by
  simp only [IsHarmless, Node.mem_elements_iff, forall_exists_index]
  exact forall_comm

theorem IgnoresNoise.filterMap_harmless (ignores : IgnoresNoise give) {node : Node}
    (harmless : IsHarmless node) : node.elements.filterMap give = [] := by
  rw [List.filterMap_eq_nil_iff]
  intro element member
  obtain ⟨notForm, notQuestion⟩ := isHarmless_iff.mp harmless element member
  exact ignores.harmless element notForm notQuestion

/-- What the elements of a document give is not changed by an edit. -/
theorem Edit.keeps_given (ignores : IgnoresNoise give) {inQuestion : Prop}
    {nodes edited : List Node} (edit : Edit inQuestion nodes edited) :
    (elementsOfAll nodes).filterMap give = (elementsOfAll edited).filterMap give := by
  induction edit with
  | comment content before after => rw [elementsOfAll_append, elementsOfAll_append]; rfl
  | text first second before after => rw [elementsOfAll_append, elementsOfAll_append]; rfl
  | subtree node before after _ harmless =>
      rw [elementsOfAll_append, elementsOfAll_append, elementsOfAll, List.filterMap_append,
        List.filterMap_append, List.filterMap_append, ignores.filterMap_harmless harmless,
        List.nil_append]
  | @inside _ tag attributes children edited before after edit ih =>
      have same : give ⟨tag, attributes, children⟩ = give ⟨tag, attributes, edited⟩ :=
        ignores.respects tag attributes children edited fun isQuestion =>
          (edit.keeps_outlines (Or.inr isQuestion)).2
      simp only [elementsOfAll_append, elementsOfAll, Node.elements, List.filterMap_append,
        List.cons_append, List.filterMap_cons, same, ih]

end Gathering

/-! ## Forms -/

/-- The address that an element gives, if it is a form element. -/
def addressOf? (element : Element) : Option String :=
  if formElement.accepts element then some (element.attributeOrEmpty "action") else none

/-- The field that an element gives, if it is a question. -/
def questionOf? (element : Element) : Option Field :=
  if questionBlock.accepts element then fieldOf? element.asRoot else none

/-- A form is gathered from what the elements of its document give. -/
theorem ofTree?_eq_gathered (root : Element) :
    Form.ofTree? root =
      ((elementsOfAll root.children).filterMap addressOf?).head?.map fun url =>
        ⟨url, ((elementsOfAll root.children).filterMap questionOf?).foldl place []⟩ := by
  have addresses : (formElement.select [root.asRoot]).map
      (fun form => form.element.attributeOrEmpty "action") =
        (elementsOfAll root.children).filterMap addressOf? :=
    calc (formElement.select [root.asRoot]).map
          (fun form => form.element.attributeOrEmpty "action")
        = ((formElement.select [root.asRoot]).map Place.element).map
            (fun form => form.attributeOrEmpty "action") := by rw [List.map_map]; rfl
      _ = ((elementsOfAll root.children).filter formElement.accepts).filterMap
            (fun form => some (form.attributeOrEmpty "action")) := by
          rw [Compound.map_element_select, List.filterMap_eq_map']
          rfl
      _ = (elementsOfAll root.children).filterMap addressOf? := List.filterMap_filter
  have placeless : ∀ block : Place, fieldOf? block.element.asRoot = fieldOf? block :=
    fun block => fieldOf?_congr rfl
  have fields : (questionBlock.select [root.asRoot]).filterMap fieldOf? =
      (elementsOfAll root.children).filterMap questionOf? :=
    calc (questionBlock.select [root.asRoot]).filterMap fieldOf?
        = ((questionBlock.select [root.asRoot]).map Place.element).filterMap
            (fun question => fieldOf? question.asRoot) := by
          rw [List.filterMap_map, ← funext placeless]
          rfl
      _ = ((elementsOfAll root.children).filter questionBlock.accepts).filterMap
            (fun question => fieldOf? question.asRoot) := by
          rw [Compound.map_element_select]
          rfl
      _ = (elementsOfAll root.children).filterMap questionOf? := List.filterMap_filter
  rw [Form.ofTree?, fieldsOf, fields, ← addresses, List.head?_map, Option.map_map]
  rfl

theorem ignoresNoise_addressOf? : IgnoresNoise addressOf? := by
  constructor
  · intro element notForm _
    rw [addressOf?, if_neg]
    rwa [formElement, Compound.accepts_tagged]
  · intro tag attributes children edited _
    rfl

theorem ignoresNoise_questionOf? : IgnoresNoise questionOf? := by
  constructor
  · intro element _ notQuestion
    rw [questionOf?, if_neg]
    rwa [questionBlock, Compound.accepts_classed_iff]
  · intro tag attributes children edited same
    have accepted : questionBlock.accepts ⟨tag, attributes, edited⟩ =
        questionBlock.accepts ⟨tag, attributes, children⟩ := rfl
    rw [questionOf?, questionOf?, accepted]
    split
    · next isQuestion =>
      apply fieldOf?_congr
      exact same ((Compound.accepts_classed_iff _ _).mp isQuestion)
    · rfl

/-- The reader of forms ignores noise: documents that arise from each other by edits and
their inverses, any number of them, have the same form, or no form at all. -/
theorem ofTree?_ignores_noise {root edited : Element}
    (noise : Relation.EqvGen IsEdited root edited) :
    Form.ofTree? edited = Form.ofTree? root := by
  induction noise with
  | rel root edited edit =>
      obtain ⟨_, _, edit⟩ := edit
      rw [ofTree?_eq_gathered, ofTree?_eq_gathered, edit.keeps_given ignoresNoise_addressOf?,
        edit.keeps_given ignoresNoise_questionOf?]
  | refl root => rfl
  | symm root edited _ ih => exact ih.symm
  | trans root between edited _ _ ih ih' => exact ih'.trans ih

/-- A page with one question. The parameters are what stands before the form and what is
inside the title. -/
def titledPage (front title : List Node) : Element :=
  ⟨"html", [], front ++ [.element "form" [("action", "/answers")] [
    .element "div" [("class", "ss-form-question")] [
      .element "label" [("class", "ss-q-item-label")] title,
      .element "input" [("name", "1"), ("type", "text")] []]]]⟩

/-- An edit of the title is an edit of the page. -/
theorem isEdited_titledPage {title edited : List Node} (front : List Node)
    (edit : ∀ inQuestion, Edit inQuestion title edited) :
    IsEdited (titledPage front title) (titledPage front edited) := by
  refine ⟨rfl, rfl, ?_⟩
  apply Edit.inside "form" _ front []
  apply Edit.inside "div" _ [] []
  apply Edit.inside "label" _ [] _
  exact edit _

/-- A note that may stand before the form. -/
def note : Node :=
  .element "P" [("class", "ss-form")] [.text "Please answer.", .element "label" [] []]

theorem isHarmless_note : IsHarmless note := by
  rw [isHarmless_iff]
  simp only [IsForm, IsQuestion]
  decide +kernel

/-- A comment leaves the title, the title is cut in two, and a note comes in. -/
theorem ofTree?_ignores_noise_titledPage :
    Relation.EqvGen IsEdited (titledPage [] [.text "Size\n*", .comment "required"])
      (titledPage [note] [.text "Si", .text "ze\n*"]) ∧
    Form.ofTree? (titledPage [note] [.text "Si", .text "ze\n*"]) =
      Form.ofTree? (titledPage [] [.text "Size\n*", .comment "required"]) := by
  have commented : IsEdited (titledPage [] [.text "Size\n*"])
      (titledPage [] [.text "Size\n*", .comment "required"]) :=
    isEdited_titledPage [] fun _ => Edit.comment "required" [.text "Size\n*"] []
  have cut : IsEdited (titledPage [] [.text "Size\n*"])
      (titledPage [] [.text "Si", .text "ze\n*"]) :=
    isEdited_titledPage [] fun _ => Edit.text "Si" "ze\n*" [] []
  have noted : IsEdited (titledPage [] [.text "Si", .text "ze\n*"])
      (titledPage [note] [.text "Si", .text "ze\n*"]) :=
    ⟨rfl, rfl, Edit.subtree note [] _ not_false isHarmless_note⟩
  have noise := ((Relation.EqvGen.rel _ _ commented).symm.trans _ _ _
    (Relation.EqvGen.rel _ _ cut)).trans _ _ _ (Relation.EqvGen.rel _ _ noted)
  exact ⟨noise, ofTree?_ignores_noise noise⟩

end Extraction

end Questionnaire
