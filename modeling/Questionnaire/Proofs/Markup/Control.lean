/-
# What the markup of a field says

Names, tokens, patterns and values of a field come from pages and may hold quotation marks,
angle brackets and texts that look like tags or references. Read back, the markup of a field
is its control and nothing else, and what the control offers is what the field accepts. The
tags are listed here kind by kind, without the functions that make them.
-/

import Questionnaire.Proofs.Markup.Reading
import Questionnaire.Proofs.Validation

namespace Questionnaire

namespace Markup

/-- A value shown as text. An empty one shows nothing. -/
def shownText (value : String) : List Markup :=
  if value = "" then [] else [.text value]

/-- The value that a tag offers, if it is an input or an option with one. -/
def offeredValue? : Markup → Option String
  | .voidTag name attributes => if name = "input" then attributes.lookup "value" else none
  | .startTag name attributes => if name = "option" then attributes.lookup "value" else none
  | _ => none

/-- The values that some tags offer, in order. -/
def offeredValues (tokens : List Markup) : List String :=
  tokens.filterMap offeredValue?

/-- A list of blocks that start with a tag has no two texts in a row if no block has. -/
theorem isChain_flatMap {blocks : String → List Markup} {values : List String}
    (apart : ∀ value, (blocks value).IsChain fun first second => first.IsTag ∨ second.IsTag)
    (starts : ∀ value, ∃ tag rest, blocks value = tag :: rest ∧ tag.IsTag) :
    (values.flatMap blocks).IsChain fun first second => first.IsTag ∨ second.IsTag := by
  induction values with
  | nil => exact .nil
  | cons value others ih =>
      rw [List.flatMap_cons, List.isChain_append]
      refine ⟨apart value, ih, ?_⟩
      intro last _ next isNext
      cases others with
      | nil => cases isNext
      | cons other more =>
          obtain ⟨tag, rest, block, isTag⟩ := starts other
          rw [List.flatMap_cons, block, List.cons_append, List.head?_cons] at isNext
          cases isNext
          exact Or.inr isTag

end Markup

namespace Field

open Markup

variable (field : Field)

/-- The attribute that tells whether an answer is required. -/
def demand : List (String × String) :=
  if field.required then [("required", "")] else []

/-- The labelled input of one value of a group, with the value as text. -/
def labelledInput (type value : String) : List Markup :=
  .startTag "label" [] ::
    .voidTag "input" ([("type", type), ("name", field.name), ("value", value)] ++ field.demand) ::
    (shownText value ++ [.endTag "label"])

/-- An input that stands alone, with further attributes. -/
def singleInput (type : String) (further : List (String × String)) : List Markup :=
  [.voidTag "input" ([("type", type), ("name", field.name)] ++ field.demand ++ further)]

/-- The option of one value of a list, with the value as text. -/
def shownOption (value : String) : List Markup :=
  .startTag "option" [("value", value)] :: (shownText value ++ [.endTag "option"])

/-- The attribute that tells a pattern, if there is one that is not empty. -/
def shownPattern : Option String → List (String × String)
  | none => []
  | some pattern => if pattern = "" then [] else [("pattern", pattern)]

/-- What it means that tags and texts are the control of a field and nothing else. -/
structure IsShownBy (tokens : List Markup) : Prop where
  /-- A group of buttons has a labelled input for each value, in order. -/
  buttons : ∀ values, field.kind = .radio values →
    tokens = values.flatMap (field.labelledInput "radio")
  /-- A group of boxes has one as well. -/
  boxes : ∀ values, field.kind = .checkbox values →
    tokens = values.flatMap (field.labelledInput "checkbox")
  /-- A list has an option for each value, in order. -/
  list : ∀ values, field.kind = .select values →
    tokens = .startTag "select" (("name", field.name) :: field.demand) ::
      (values.flatMap shownOption ++ [.endTag "select"])
  /-- A text of any length has an empty text area. -/
  area : field.kind = .textarea →
    tokens = [.startTag "textarea" (("name", field.name) :: field.demand), .endTag "textarea"]
  /-- A line of text has one input, with its pattern. -/
  text : ∀ pattern, field.kind = .text pattern →
    tokens = field.singleInput "text" (shownPattern pattern)
  /-- A number has one input without a pattern, and so does everything that follows. -/
  number : field.kind = .number → tokens = field.singleInput "number" []
  /-- An e-mail address. -/
  email : field.kind = .email → tokens = field.singleInput "email" []
  /-- A web address. -/
  url : field.kind = .url → tokens = field.singleInput "url" []
  /-- A kind that is not known keeps its token. -/
  other : ∀ token, field.kind = .other token → tokens = field.singleInput token []

/-! ## The parts of a control -/

theorem isName_of_mem_demand {entry : String × String} (member : entry ∈ field.demand) :
    IsName entry.1 := by
  unfold demand at member
  split at member
  · obtain rfl := List.mem_singleton.mp member
    decide
  · cases member

theorem render_shownText (value : String) :
    (shownText value).flatMap renderPiece = renderPiece (.text value) := by
  by_cases isEmpty : value = "" <;> simp [shownText, isEmpty, renderPiece]

theorem render_labelledInput {type : String} (isType : field.kind.token = type) (value : String) :
    (field.labelledInput type value).flatMap renderPiece =
      (field.choiceMarkup value).flatMap renderPiece := by
  simp only [labelledInput, choiceMarkup, isType, List.flatMap_cons, List.flatMap_append,
    render_shownText, List.flatMap_nil, List.append_nil]
  rfl

theorem render_shownOption (value : String) :
    (shownOption value).flatMap renderPiece = (optionMarkup value).flatMap renderPiece := by
  simp only [shownOption, optionMarkup, List.flatMap_cons, List.flatMap_append,
    render_shownText, List.flatMap_nil, List.append_nil]

theorem isPlain_of_mem_shownText {value : String} {piece : Markup}
    (member : piece ∈ shownText value) : piece.IsPlain := by
  unfold shownText at member
  split at member
  · cases member
  · next nonempty =>
    obtain rfl := List.mem_singleton.mp member
    exact nonempty

theorem isPlain_of_mem_labelledInput {type value : String} {piece : Markup}
    (member : piece ∈ field.labelledInput type value) : piece.IsPlain := by
  simp only [labelledInput, List.mem_cons, List.mem_append, List.not_mem_nil, or_false] at member
  rcases member with rfl | rfl | shown | rfl
  · exact ⟨by decide, by simp⟩
  · refine ⟨by decide, ?_⟩
    intro entry inside
    rcases List.mem_append.mp inside with fixed | demanded
    · simp only [List.mem_cons, List.not_mem_nil, or_false] at fixed
      rcases fixed with rfl | rfl | rfl
      · exact (by decide : IsName "type")
      · exact (by decide : IsName "name")
      · exact (by decide : IsName "value")
    · exact isName_of_mem_demand field demanded
  · exact isPlain_of_mem_shownText shown
  · exact (by decide : IsName "label")

theorem isName_of_mem_shownPattern {pattern : Option String} {entry : String × String}
    (member : entry ∈ shownPattern pattern) : IsName entry.1 := by
  unfold shownPattern at member
  split at member
  · cases member
  · split at member
    · cases member
    · obtain rfl := List.mem_singleton.mp member
      exact (by decide : IsName "pattern")

theorem isPlain_of_mem_singleInput {type : String} {pattern : Option String} {piece : Markup}
    (member : piece ∈ field.singleInput type (shownPattern pattern)) : piece.IsPlain := by
  obtain rfl := List.mem_singleton.mp member
  refine ⟨by decide, ?_⟩
  simp only [List.forall_mem_append, List.forall_mem_cons]
  exact ⟨⟨⟨(by decide : IsName "type"), (by decide : IsName "name"), by simp⟩,
    fun _ => isName_of_mem_demand field⟩, fun _ => isName_of_mem_shownPattern⟩

theorem isPlain_of_mem_shownOption {value : String} {piece : Markup}
    (member : piece ∈ shownOption value) : piece.IsPlain := by
  simp only [shownOption, List.mem_cons, List.mem_append, List.not_mem_nil, or_false] at member
  rcases member with rfl | shown | rfl
  · exact ⟨by decide, by simp [show IsName "value" by decide]⟩
  · exact isPlain_of_mem_shownText shown
  · exact (by decide : IsName "option")

theorem isChain_labelledInput (type value : String) :
    (field.labelledInput type value).IsChain fun first second => first.IsTag ∨ second.IsTag := by
  by_cases isEmpty : value = "" <;> simp [labelledInput, shownText, isEmpty, IsTag]

theorem isChain_shownOption (value : String) :
    (shownOption value).IsChain fun first second => first.IsTag ∨ second.IsTag := by
  by_cases isEmpty : value = "" <;> simp [shownOption, shownText, isEmpty, IsTag]

/-! ## Controls are read back -/

variable {field}

/-- A control is read back if it is written as the markup of the field is. -/
theorem read_html {tokens : List Markup}
    (same : field.markup.flatMap renderPiece = tokens.flatMap renderPiece)
    (plain : ∀ piece ∈ tokens, piece.IsPlain)
    (apart : tokens.IsChain fun first second => first.IsTag ∨ second.IsTag) :
    read? field.html.toList = some tokens := by
  rw [html, render, String.toList_ofList, same, read_render plain apart]

/-- A group is read back as labelled inputs of its type. -/
theorem read_html_group {type : String} {values : List String} (isType : field.kind.token = type)
    (isGroup : field.markup = values.flatMap field.choiceMarkup) :
    read? field.html.toList = some (values.flatMap (field.labelledInput type)) := by
  apply read_html
  · rw [isGroup, List.flatMap_assoc, List.flatMap_assoc]
    simp only [render_labelledInput field isType]
  · intro piece member
    obtain ⟨value, _, inside⟩ := List.mem_flatMap.mp member
    exact isPlain_of_mem_labelledInput field inside
  · exact isChain_flatMap (isChain_labelledInput field type) fun value => ⟨_, _, rfl, trivial⟩

theorem read_html_list {values : List String} (isList : field.kind = .select values) :
    read? field.html.toList =
      some (.startTag "select" (("name", field.name) :: field.demand) ::
        (values.flatMap shownOption ++ [.endTag "select"])) := by
  have options : (values.flatMap optionMarkup).flatMap renderPiece =
      (values.flatMap shownOption).flatMap renderPiece := by
    rw [List.flatMap_assoc, List.flatMap_assoc]
    simp only [render_shownOption]
  apply read_html
  · rw [markup, isList]
    simp only [List.flatMap_cons, List.cons_append, List.flatMap_append, options]
    rfl
  · intro piece member
    simp only [List.mem_cons, List.mem_append, List.not_mem_nil, or_false] at member
    rcases member with rfl | inside | rfl
    · refine ⟨by decide, List.forall_mem_cons.mpr ⟨(by decide : IsName "name"), ?_⟩⟩
      exact fun entry => isName_of_mem_demand field
    · obtain ⟨value, _, inside⟩ := List.mem_flatMap.mp inside
      exact isPlain_of_mem_shownOption inside
    · exact (by decide : IsName "select")
  · rw [List.isChain_cons, List.isChain_append]
    exact ⟨fun _ _ => Or.inl trivial,
      isChain_flatMap isChain_shownOption fun value => ⟨_, _, rfl, trivial⟩,
      .singleton _, fun _ _ _ isLast => by cases isLast; exact Or.inr trivial⟩

theorem read_html_area (isArea : field.kind = .textarea) :
    read? field.html.toList =
      some [.startTag "textarea" (("name", field.name) :: field.demand), .endTag "textarea"] := by
  apply read_html
  · rw [markup, isArea]
    rfl
  · intro piece member
    simp only [List.mem_cons, List.not_mem_nil, or_false] at member
    rcases member with rfl | rfl
    · refine ⟨by decide, List.forall_mem_cons.mpr ⟨(by decide : IsName "name"), ?_⟩⟩
      exact fun entry => isName_of_mem_demand field
    · exact (by decide : IsName "textarea")
  · simp [IsTag]

/-- A single input is read back as it is. -/
theorem read_html_input {type : String} {pattern : Option String}
    (isInput : field.markup = field.singleInput type (shownPattern pattern)) :
    read? field.html.toList = some (field.singleInput type (shownPattern pattern)) := by
  apply read_html
  · rw [isInput]
  · exact fun piece => isPlain_of_mem_singleInput field
  · exact .singleton _

/-- An input without a pattern is read back as it is. -/
theorem read_html_plain {type : String} (isInput : field.markup = field.singleInput type []) :
    read? field.html.toList = some (field.singleInput type []) := by
  have patternless : field.markup = field.singleInput type (shownPattern none) := isInput
  exact read_html_input patternless

/-! ## Values that are offered -/

theorem offeredValues_append (first second : List Markup) :
    offeredValues (first ++ second) = offeredValues first ++ offeredValues second :=
  List.filterMap_append

theorem offeredValues_shownText (value : String) : offeredValues (shownText value) = [] := by
  unfold shownText
  split <;> rfl

theorem offeredValues_labelledInput (type value : String) :
    offeredValues (field.labelledInput type value) = [value] := by
  have front : offeredValues [.startTag "label" [], .voidTag "input"
      ([("type", type), ("name", field.name), ("value", value)] ++ field.demand)] = [value] := rfl
  show offeredValues ([_, _] ++ (shownText value ++ [.endTag "label"])) = [value]
  rw [offeredValues_append, offeredValues_append, front, offeredValues_shownText]
  rfl

theorem offeredValues_shownOption (value : String) :
    offeredValues (shownOption value) = [value] := by
  have front : offeredValues [.startTag "option" [("value", value)]] = [value] := rfl
  show offeredValues ([_] ++ (shownText value ++ [.endTag "option"])) = [value]
  rw [offeredValues_append, offeredValues_append, front, offeredValues_shownText]
  rfl

/-- Blocks that offer one value each offer these values. -/
theorem offeredValues_flatMap {blocks : String → List Markup}
    (offers : ∀ value, offeredValues (blocks value) = [value]) (values : List String) :
    offeredValues (values.flatMap blocks) = values := by
  induction values with
  | nil => rfl
  | cons value others ih =>
      rw [List.flatMap_cons, offeredValues_append, offers, ih]
      rfl

theorem offeredValues_group (type : String) (values : List String) :
    offeredValues (values.flatMap (field.labelledInput type)) = values :=
  offeredValues_flatMap (offeredValues_labelledInput type) values

theorem offeredValues_list (attributes : List (String × String)) (values : List String) :
    offeredValues (.startTag "select" attributes ::
      (values.flatMap shownOption ++ [.endTag "select"])) = values := by
  show offeredValues ([_] ++ (values.flatMap shownOption ++ [.endTag "select"])) = values
  rw [offeredValues_append, offeredValues_append,
    offeredValues_flatMap offeredValues_shownOption]
  exact List.append_nil values

/-! ## A control and the answers it leads to -/

/-- Every field has a control that its markup is read back as. -/
theorem exists_control (field : Field) :
    ∃ tokens, read? field.html.toList = some tokens ∧ field.IsShownBy tokens := by
  cases isKind : field.kind with
  | radio values =>
      have isGroup : field.markup = values.flatMap field.choiceMarkup := by rw [markup, isKind]
      exact ⟨_, read_html_group (congrArg FieldKind.token isKind) isGroup,
        by constructor <;> simp [isKind, FieldKind.token]⟩
  | checkbox values =>
      have isGroup : field.markup = values.flatMap field.choiceMarkup := by rw [markup, isKind]
      exact ⟨_, read_html_group (congrArg FieldKind.token isKind) isGroup,
        by constructor <;> simp [isKind, FieldKind.token]⟩
  | select values => exact ⟨_, read_html_list isKind, by constructor <;> simp [isKind]⟩
  | textarea => exact ⟨_, read_html_area isKind, by constructor <;> simp [isKind]⟩
  | text pattern =>
      have isInput : field.markup = field.singleInput "text" (shownPattern pattern) := by
        rw [markup, isKind]
        cases pattern <;> rfl
      exact ⟨_, read_html_input isInput, by constructor <;> simp [isKind]⟩
  | number =>
      exact ⟨field.singleInput "number" [], read_html_plain (by rw [markup, isKind]; rfl),
        by constructor <;> simp [isKind]⟩
  | email =>
      exact ⟨field.singleInput "email" [], read_html_plain (by rw [markup, isKind]; rfl),
        by constructor <;> simp [isKind]⟩
  | url =>
      exact ⟨field.singleInput "url" [], read_html_plain (by rw [markup, isKind]; rfl),
        by constructor <;> simp [isKind]⟩
  | other token =>
      exact ⟨field.singleInput token [], read_html_plain (by rw [markup, isKind]; rfl),
        by constructor <;> simp [isKind]⟩

namespace IsShownBy

variable {tokens : List Markup} {values : List String}

/-- The control of a list or of a group of buttons offers its values. -/
theorem offeredValues_choice (shown : field.IsShownBy tokens)
    (isChoice : field.kind = .select values ∨ field.kind = .radio values) :
    offeredValues tokens = values := by
  rcases isChoice with isList | isGroup
  · rw [shown.list values isList, offeredValues_list]
  · rw [shown.buttons values isGroup, offeredValues_group]

/-- The control of a group of boxes offers its values. -/
theorem offeredValues_boxes (shown : field.IsShownBy tokens)
    (areBoxes : field.kind = .checkbox values) : offeredValues tokens = values := by
  rw [shown.boxes values areBoxes, offeredValues_group]

end IsShownBy

/-- A list and a group of buttons accept the texts among their values. -/
theorem accepts_choice_iff {values : List String} (answer : Answer)
    (isChoice : field.kind = .select values ∨ field.kind = .radio values) :
    field.kind.accepts answer = true ↔ ∃ text ∈ values, answer = .single text := by
  have contained : field.kind.accepts answer = answer.single?.any values.contains := by
    rcases isChoice with isKind | isKind <;> rw [isKind] <;> rfl
  rw [contained, Answer.any_single?_iff]
  simp only [List.contains_iff_mem, and_comm]

/-- Whatever its name, token, pattern and values hold, the markup of a field is read back as
its control and nothing else. A list and a group of buttons accept exactly the values that
their control offers, and a group of boxes exactly the lists of such values. -/
theorem markup_is_read_back (field : Field) :
    ∃ tokens, read? field.html.toList = some tokens ∧ field.IsShownBy tokens ∧
      (∀ values, field.kind = .select values ∨ field.kind = .radio values →
        offeredValues tokens = values ∧
        ∀ answer, field.kind.accepts answer = true ↔
          ∃ text ∈ offeredValues tokens, answer = .single text) ∧
      ∀ values, field.kind = .checkbox values →
        offeredValues tokens = values ∧
        ∀ answer, field.kind.accepts answer = true ↔
          ∃ texts, (∀ text ∈ texts, text ∈ offeredValues tokens) ∧ answer = .multiple texts := by
  obtain ⟨tokens, reads, shown⟩ := exists_control field
  refine ⟨tokens, reads, shown, ?_, ?_⟩
  · intro values isChoice
    have offered := shown.offeredValues_choice isChoice
    refine ⟨offered, fun answer => ?_⟩
    rw [offered]
    exact accepts_choice_iff answer isChoice
  · intro values areBoxes
    have offered := shown.offeredValues_boxes areBoxes
    refine ⟨offered, fun answer => ?_⟩
    rw [offered, areBoxes, FieldKind.accepts_checkbox_iff]
    simp only [and_comm]

end Field

end Questionnaire
