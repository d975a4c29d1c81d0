/-
# The profile of a field

A profile is the flat description of a field. Kinds of fields differ in what they carry, and
a profile writes `null` for what a kind does not have, so that it can be asked whether
anything is lost on the way. Nothing is, provided that the kind is one that a token stands
for: an empty pattern would be read back as none, and an unknown kind whose token names a
known one would be read back as that one.
-/

import Questionnaire.Field
import Questionnaire.Proofs.Dictionary
import Questionnaire.Proofs.FirstFailure

namespace Questionnaire

namespace FieldKind

/-- The tokens that name a kind. -/
def tokens : List String :=
  ["text", "number", "email", "url", "textarea", "select", "radio", "checkbox"]

/-- A kind that some token stands for. -/
structure IsProper (kind : FieldKind) : Prop where
  /-- An empty pattern is no pattern. -/
  hasPattern : ∀ source, kind = .text (some source) → source ≠ ""
  /-- A kind is unknown only if its token names none. -/
  isUnknown : ∀ unknown, kind = .other unknown → unknown ∉ tokens

/-- The kinds that tokens stand for are proper. -/
theorem isProper_ofToken (token : String) (values : List String) (pattern : Option String) :
    (ofToken token values pattern).IsProper := by
  unfold ofToken
  constructor
  · intro source isText
    split at isText
    · have kept : pattern.filter (fun source => source != "") = some source :=
        FieldKind.text.inj isText
      simpa using (Option.filter_eq_some_iff.mp kept).2
    iterate 7
      split at isText
      · cases isText
    cases isText
  · intro unknown isOther
    iterate 8
      split at isOther
      · cases isOther
    cases isOther
    simp [tokens, *]

/-- A proper kind is the one that its token stands for, given its values and its pattern. -/
theorem IsProper.ofToken_token {kind : FieldKind} (proper : kind.IsProper) :
    ofToken kind.token (kind.values?.getD []) kind.pattern? = kind := by
  cases kind with
  | text pattern =>
      cases pattern with
      | none => rfl
      | some source =>
          have nonempty := proper.hasPattern source rfl
          simp [ofToken, token, pattern?, nonempty]
  | other unknown =>
      have unnamed := proper.isUnknown unknown rfl
      simp only [tokens, List.mem_cons, List.not_mem_nil, or_false, not_or] at unnamed
      simp [ofToken, token, unnamed]
  | number | email | url | textarea | select | radio | checkbox => rfl

end FieldKind

namespace Json

/-- The truth value of a JSON value that is one. -/
def boolean? : Json → Option Bool
  | .boolean value => some value
  | _ => none

@[simp]
theorem boolean?_boolean (value : Bool) : (boolean value).boolean? = some value := rfl

@[simp]
theorem string?_string (text : String) : (string text).string? = some text := rfl

/-- The texts of an array of texts are read back. -/
theorem strings?_ofStrings (texts : List String) : (ofStrings texts).strings? = some texts :=
  mapM_map_of_undoes string?_string texts

theorem string?_ofOptionalString (text : Option String) : (ofOptionalString text).string? = text := by
  cases text <;> rfl

end Json

namespace Field

/-- The field that a flat description describes. Its kind is the one that the type stands
for, and what is `null` is left out. -/
def ofProfile? (profile : Json) : Option Field := do
  let members ← profile.members?
  let id ← (← members.get? "id").string?
  let name ← (← members.get? "name").string?
  let label ← (← members.get? "label").string?
  let required ← (← members.get? "required").boolean?
  let token ← (← members.get? "type").string?
  let values ← members.get? "values"
  let pattern ← members.get? "pattern"
  some (labelled id name label required
    (FieldKind.ofToken token (values.strings?.getD []) pattern.string?))

/-- The members of a profile, each of them found by its name. -/
theorem get?_members_profile (field : Field) :
    ∃ members, field.profile.members? = some members ∧
      members.get? "id" = some (.string field.id) ∧
      members.get? "name" = some (.string field.name) ∧
      members.get? "label" = some (.string field.label) ∧
      members.get? "required" = some (.boolean field.required) ∧
      members.get? "type" = some (.string field.kind.token) ∧
      members.get? "values" = some ((field.kind.values?.map Json.ofStrings).getD .null) ∧
      members.get? "pattern" = some (Json.ofOptionalString field.kind.pattern?) := by
  refine ⟨_, rfl, ?_⟩
  simp [Dictionary.ofList, Dictionary.insertAll]

/-- A field whose kind is proper is read back from its profile, if it has a label wherever
it has a name. -/
theorem ofProfile?_profile {field : Field} (named : field.label = "" → field.name = "")
    (proper : field.kind.IsProper) : ofProfile? field.profile = some field := by
  obtain ⟨members, areMembers, id, name, label, required, token, values, pattern⟩ :=
    get?_members_profile field
  have listed : ((field.kind.values?.map Json.ofStrings).getD .null).strings?.getD [] =
      field.kind.values?.getD [] := by
    cases field.kind.values? with
    | none => rfl
    | some values => rw [Option.map_some, Option.getD_some, Json.strings?_ofStrings]
  have shown : (if field.label = "" then field.name else field.label) = field.label := by
    split
    · next empty => rw [named empty, empty]
    · rfl
  rw [ofProfile?, areMembers]
  simp only [Option.bind_eq_bind, Option.bind_some, id, name, label, required, token, values,
    pattern, Json.string?_string]
  rw [Json.boolean?_boolean, Option.bind_some]
  rw [listed, Json.string?_ofOptionalString, proper.ofToken_token, labelled, shown]

end Field

end Questionnaire
