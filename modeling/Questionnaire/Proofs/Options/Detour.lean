/-
# Setting an option by way of JSON

Options can also be set by a detour: write all of them as a JSON object, edit the member
that is to be set, and read the whole object back. Every other option then passes through a
writer and a reader and could be lost or reset on the way. It is not: the detour leads to the
same options and to the same error as setting the one option alone, also where new headers
and headers that were there before are read in one go.
-/

import Questionnaire.Options
import Questionnaire.Proofs.Dictionary.Merging
import Questionnaire.Proofs.FirstFailure

namespace Questionnaire

/-- An object of texts: its members are exactly these texts by their names. -/
def Json.IsObjectOf (value : Json) (texts : Dictionary String) : Prop :=
  value.members? = some (texts.mapValues .string)

namespace Options

/-! ## Objects of texts -/

/-- Read one member as a text. -/
def readText (member : String × Json) : Except ShapeError (String × String) :=
  match member.2 with
  | .string text => .ok (member.1, text)
  | other => .error (.wrongType other "a string")

theorem readText_eq_ok_iff {member : String × Json} {header : String × String} :
    readText member = .ok header ↔ member = (header.1, .string header.2) := by
  obtain ⟨name, value⟩ := member
  obtain ⟨name', text⟩ := header
  cases value <;> simp [readText]

theorem readText_eq_error_iff {member : String × Json} {cause : ShapeError} :
    readText member = .error cause ↔
      (∀ text, member.2 ≠ .string text) ∧ cause = .wrongType member.2 "a string" := by
  obtain ⟨name, value⟩ := member
  cases value <;> simp [readText, eq_comm]

theorem readTexts_eq_mapM (entries : List (String × Json)) :
    readTexts entries = entries.mapM readText := by
  induction entries with
  | nil => rfl
  | cons member rest ih =>
      obtain ⟨name, value⟩ := member
      cases outcome : readText (name, value) with
      | error cause =>
          rw [mapM_cons_of_error outcome]
          obtain ⟨noText, rfl⟩ := readText_eq_error_iff.mp outcome
          cases value with
          | string text => exact absurd rfl (noText text)
          | null | boolean _ | number _ | array _ | object _ => rfl
      | ok header =>
          obtain ⟨rfl, rfl⟩ := Prod.mk.inj (readText_eq_ok_iff.mp outcome)
          rw [mapM_cons_of_ok outcome, ← ih, readTexts]
          cases readTexts rest <;> rfl

/-- Members are read as texts if all of them are texts. -/
theorem readTexts_eq_ok_iff {members : Dictionary Json} {texts : List (String × String)} :
    readTexts members.entries = .ok texts ↔
      ∃ headers : Dictionary String, headers.entries = texts ∧
        members = headers.mapValues .string := by
  have whole : readTexts members.entries = .ok texts ↔
      members.entries = texts.map fun header => (header.1, Json.string header.2) := by
    rw [readTexts_eq_mapM, mapM_eq_ok_iff]
    simp only [readText_eq_ok_iff]
    rw [← List.forall₂_map_right_iff (R := fun entry entry' => entry = entry'),
      List.forall₂_eq_eq_eq]
  rw [whole]
  constructor
  · intro same
    have ascending := members.ascending
    rw [same, List.pairwise_map] at ascending
    exact ⟨⟨texts, ascending⟩, rfl, Dictionary.ext same⟩
  · rintro ⟨headers, rfl, rfl⟩
    rfl

/-- Otherwise the error is about the member with the smallest name that is no text. -/
theorem readTexts_eq_error_iff {members : Dictionary Json} {cause : ShapeError} :
    readTexts members.entries = .error cause ↔
      ∃ name value, members.get? name = some value ∧
        (∀ text, value ≠ .string text) ∧ cause = .wrongType value "a string" ∧
        ∀ smaller < name, ∀ other, members.get? smaller = some other →
          ∃ text, other = .string text := by
  simp only [readTexts_eq_mapM, mapM_eq_error_iff, readText_eq_error_iff, readText_eq_ok_iff,
    Dictionary.get?_eq_some_iff_mem]
  constructor
  · rintro ⟨before, ⟨name, value⟩, after, parts, earlier, noText, rfl⟩
    refine ⟨name, value, parts ▸ List.mem_append_right before List.mem_cons_self, noText, rfl, ?_⟩
    intro smaller less other member
    have inBefore : (smaller, other) ∈ before := by
      rw [Dictionary.before_eq_filter members parts]
      exact List.mem_filter.mpr ⟨member, decide_eq_true less⟩
    obtain ⟨header, isText⟩ := earlier _ inBefore
    exact ⟨header.2, congrArg Prod.snd isText⟩
  · rintro ⟨name, value, member, noText, rfl, earlier⟩
    obtain ⟨before, after, parts⟩ := List.append_of_mem member
    refine ⟨before, (name, value), after, parts, ?_, noText, rfl⟩
    intro entry inBefore
    rw [Dictionary.before_eq_filter members parts] at inBefore
    obtain ⟨member', less⟩ := List.mem_filter.mp inBefore
    obtain ⟨text, isText⟩ := earlier entry.1 (of_decide_eq_true less) entry.2 member'
    exact ⟨(entry.1, text), Prod.ext rfl isText⟩

/-! ## Reading what options are made of -/

theorem readTimeout_eq_ok_iff {value : Json} {seconds : Nat} :
    readTimeout value = .ok seconds ↔ value = Json.ofNat seconds := by
  rcases value with _ | _ | (_ | _ | _) | _ | _ | _ <;> simp [readTimeout, Json.ofNat]

theorem readHeaders_eq_ok_iff {value : Json} {headers : List (String × String)} :
    readHeaders value = .ok headers ↔
      ∃ texts : Dictionary String, texts.entries = headers ∧ value.IsObjectOf texts := by
  unfold readHeaders Json.IsObjectOf
  cases value.members? with
  | none => simp
  | some members => simp only [readTexts_eq_ok_iff, Option.some.injEq]

/-- Headers are written as an object of texts. -/
theorem isObjectOf_headersJson (options : Options) :
    options.headersJson.IsObjectOf options.headers := by
  rw [headersJson, Json.IsObjectOf, Json.members?]
  exact congrArg some (Dictionary.ofList_entries (options.headers.mapValues Json.string))

/-- Headers that were written are read back. -/
theorem headersOfJson_headersJson (options : Options) :
    headersOfJson options.headersJson = .ok options.headers := by
  have read : readHeaders options.headersJson = .ok options.headers.entries :=
    readHeaders_eq_ok_iff.mpr ⟨options.headers, rfl, isObjectOf_headersJson options⟩
  rw [headersOfJson, read]
  exact congrArg Except.ok (Dictionary.ofList_entries options.headers)

/-! ## The detour -/

/-- A member after it is given a value: an object is added to an object, and anything else
takes the place of what was there. -/
def editMember : Json → Json → Json
  | .object old, .object new => .object (old ++ new)
  | _, new => new

/-- Set one option by writing all options as a JSON object, editing one member, and reading
the object back. -/
def setInJson (options : Options) (key : String) (value : Json) : Except OptionError Options :=
  let members := options.toJson.members?.getD ∅
  match members.get? key with
  | none => .error (.unknown key)
  | some old =>
    match ofJson (.object (members.insert key (editMember old value)).entries) with
    | .error cause => .error (.invalid key cause)
    | .ok changed => .ok changed

/-- The members of the object are the options. -/
theorem get?_toJson (options : Options) (key : String) :
    (options.toJson.members?.getD ∅).get? key = options.get? key := by
  by_cases isTimeout : key = "timeout"
  · simp [toJson, Json.members?, Dictionary.ofList, Dictionary.insertAll, get?, isTimeout]
  · by_cases isHeaders : key = "headers" <;>
      simp [toJson, Json.members?, Dictionary.ofList, Dictionary.insertAll, get?, isTimeout,
        isHeaders]

/-- Reading headers that were added to others is adding headers that were read. -/
theorem headersOfJson_editMember (options : Options) (value : Json) :
    headersOfJson (editMember options.headersJson value) =
      (readHeaders value).map options.headers.insertAll := by
  cases value with
  | null | boolean _ | number _ | string _ | array _ => rfl
  | object new =>
      let old := options.headers.mapValues Json.string
      have edited : (editMember options.headersJson (.object new)).members? =
          some (old.insertAll (Dictionary.ofList new).entries) := by
        rw [headersJson, editMember, Json.members?, Dictionary.ofList_append,
          Dictionary.insertAll_ofList]
        exact congrArg (fun members => some (Dictionary.insertAll members new))
          (Dictionary.ofList_entries old)
      rw [headersOfJson]
      cases outcome : readHeaders (.object new) with
      | ok headers =>
          obtain ⟨texts, rfl, isObject⟩ := readHeaders_eq_ok_iff.mp outcome
          have new_eq : Dictionary.ofList new = texts.mapValues .string := Option.some.inj isObject
          have read : readHeaders (editMember options.headersJson (.object new)) =
              .ok (options.headers.insertAll texts.entries).entries := by
            refine readHeaders_eq_ok_iff.mpr ⟨_, rfl, ?_⟩
            rw [Json.IsObjectOf, edited, new_eq, Dictionary.mapValues_insertAll]
          rw [read]
          exact congrArg Except.ok (Dictionary.ofList_entries _)
      | error cause =>
          have read : readHeaders (editMember options.headersJson (.object new)) =
              .error cause := by
            obtain ⟨name, value, found, noText, isCause, earlier⟩ :=
              readTexts_eq_error_iff.mp outcome
            rw [readHeaders, edited]
            -- The headers that were there are texts, so the first member that is none is new.
            refine readTexts_eq_error_iff.mpr ⟨name, value, ?_, noText, isCause, ?_⟩
            · rw [Dictionary.get?_insertAll, Dictionary.ofList_entries, found, Option.some_or]
            · intro smaller less other given
              rw [Dictionary.get?_insertAll, Dictionary.ofList_entries,
                Dictionary.get?_mapValues] at given
              cases given' : (Dictionary.ofList new).get? smaller with
              | some value' =>
                  rw [given', Option.some_or] at given
                  exact earlier smaller less other (given' ▸ given)
              | none =>
                  rw [given', Option.none_or] at given
                  obtain ⟨text, _, rfl⟩ := Option.map_eq_some_iff.mp given
                  exact ⟨text, rfl⟩
          rw [read]
          rfl

/-- The detour leads to where setting the one option leads. -/
theorem set_eq_setInJson (options : Options) (key : String) (value : Json) :
    options.set key value = options.setInJson key value := by
  unfold setInJson
  simp only [get?_toJson]
  by_cases isTimeout : key = "timeout"
  · subst isTimeout
    have edited : editMember (Json.ofNat options.timeout) value = value := by
      cases value <;> rfl
    simp only [set, ↓reduceIte, get?, ofJson, edited, Dictionary.ofList_entries,
      Dictionary.get?_insert, String.reduceEq, get?_toJson, Option.elim_some,
      headersOfJson_headersJson]
    cases readTimeout value <;> rfl
  · by_cases isHeaders : key = "headers"
    · subst isHeaders
      simp only [set, String.reduceEq, ↓reduceIte, get?, ofJson, Dictionary.ofList_entries,
        Dictionary.get?_insert, Option.elim_some, headersOfJson_editMember, get?_toJson]
      cases readHeaders value <;> rfl
    · simp [set, get?, isTimeout, isHeaders]

end Options

end Questionnaire
