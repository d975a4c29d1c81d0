/-
# Settings of options

A setting is made or it fails as a whole, and which of the two does not depend on the options
that it is made of. Several settings are made one after the other up to the first one that
fails. What a setting makes is described by the values of the options before and after it,
and what several settings make by a chain of single ones; the functions that set options are
shown to do what is described.
-/

import Questionnaire.Proofs.Dictionary.Keys
import Questionnaire.Proofs.Json.Stored
import Questionnaire.Proofs.Options.Detour

namespace Questionnaire.Options

variable {options changed : Options} {key : String} {value : Json} {error : OptionError}

/-! ## One setting -/

/-- A setting that can be made: a timeout of 64 bits, or headers that are texts. -/
def IsSetting (key : String) (value : Json) : Prop :=
  (key = "timeout" ∧ ∃ seconds < Nat.pow 2 64, value = Json.ofNat seconds) ∨
    key = "headers" ∧ ∃ texts, value.IsObjectOf texts

/-- What one setting makes of options. -/
inductive Makes (options : Options) : String → Json → Options → Prop
  /-- A whole number is the new timeout. -/
  | timeout (seconds : Nat) :
    Makes options "timeout" (Json.ofNat seconds) { options with timeout := seconds }
  /-- Texts by their names override the headers of these names. -/
  | headers {value : Json} {texts headers : Dictionary String} : value.IsObjectOf texts →
    (∀ name, headers.get? name = (texts.get? name).or (options.headers.get? name)) →
    Makes options "headers" value { options with headers }

theorem set_eq_ok_iff : options.set key value = .ok changed ↔ Makes options key value changed := by
  constructor
  · intro made
    unfold set at made
    split at made
    · next isTimeout =>
      subst isTimeout
      cases read : readTimeout value with
      | error cause => simp [read] at made
      | ok seconds =>
          obtain rfl := readTimeout_eq_ok_iff.mp read
          rw [read] at made
          cases made
          exact .timeout seconds
    · split at made
      · next isHeaders =>
        subst isHeaders
        cases read : readHeaders value with
        | error cause => simp [read] at made
        | ok headers =>
            obtain ⟨texts, rfl, isObject⟩ := readHeaders_eq_ok_iff.mp read
            rw [read] at made
            cases made
            refine .headers isObject ?_
            intro name
            rw [Dictionary.get?_insertAll, Dictionary.ofList_entries]
      · cases made
  · intro makes
    cases makes with
    | timeout seconds => rfl
    | @headers value texts headers isObject overrides =>
        have read := readHeaders_eq_ok_iff.mpr ⟨texts, rfl, isObject⟩
        have same : options.headers.insertAll texts.entries = headers := by
          apply Dictionary.ext_get?
          intro name
          rw [Dictionary.get?_insertAll, Dictionary.ofList_entries, overrides]
        rw [set, if_neg (by decide), if_pos rfl, read, ← same]

/-- A setting that is kept as JSON keeps its numbers can be made exactly if it is one. -/
theorem exists_makes_iff (stored : value.IsStored) :
    (∃ changed, Makes options key value changed) ↔ IsSetting key value := by
  constructor
  · rintro ⟨_, ⟨seconds⟩ | ⟨isObject, _⟩⟩
    · cases stored with
      | number fits => exact Or.inl ⟨rfl, seconds, fits, rfl⟩
    · exact Or.inr ⟨rfl, _, isObject⟩
  · rintro (⟨rfl, seconds, _, rfl⟩ | ⟨rfl, texts, isObject⟩)
    · exact ⟨_, .timeout seconds⟩
    · refine ⟨{ options with headers := options.headers.insertAll texts.entries },
        .headers isObject ?_⟩
      intro name
      rw [Dictionary.get?_insertAll, Dictionary.ofList_entries]

namespace Makes

/-- An option that was set shows what it was set to: a timeout the value itself, and headers
the texts of all headers that there are now. -/
theorem shows (makes : Makes options key value changed) :
    key = "timeout" ∧ changed.get? key = some value ∨
      key = "headers" ∧
        ∃ shown, changed.get? key = some shown ∧ shown.IsObjectOf changed.headers := by
  cases makes with
  | timeout seconds => exact Or.inl ⟨rfl, rfl⟩
  | headers _ _ => exact Or.inr ⟨rfl, _, rfl, isObjectOf_headersJson _⟩

/-- All other options stay as they are. -/
theorem get?_of_ne (makes : Makes options key value changed) {other : String}
    (different : other ≠ key) : changed.get? other = options.get? other := by
  cases makes with
  | timeout seconds => simp [get?, different, headersJson]
  | headers _ _ => simp [get?, different]

/-- No setting takes a header away. -/
theorem keys_subset (makes : Makes options key value changed) :
    options.headers.keys ⊆ changed.headers.keys := by
  cases makes with
  | timeout seconds => exact Finset.Subset.refl _
  | @headers _ texts _ _ overrides =>
      intro name present
      obtain ⟨text, found⟩ := Dictionary.mem_keys_iff.mp present
      rw [Dictionary.mem_keys_iff, overrides, found]
      cases texts.get? name with
      | none => exact ⟨text, rfl⟩
      | some other => exact ⟨other, rfl⟩

end Makes

/-- Why a setting fails does not depend on the options either. -/
theorem set_eq_error_iff (options other : Options) :
    options.set key value = .error error ↔ other.set key value = .error error := by
  unfold set
  split
  · cases readTimeout value <;> simp
  · split
    · cases readHeaders value <;> simp
    · simp

/-- The error of a setting is about its name, and it says whether there is such an option. -/
theorem error_of_set (fails : options.set key value = .error error) :
    if key = "timeout" ∨ key = "headers" then ∃ cause, error = .invalid key cause
    else error = .unknown key := by
  unfold set at fails
  split at fails
  · next isTimeout =>
    rw [if_pos (Or.inl isTimeout)]
    cases read : readTimeout value with
    | ok seconds => simp [read] at fails
    | error cause =>
        rw [read] at fails
        exact ⟨cause, (Except.error.inj fails).symm⟩
  · next noTimeout =>
    split at fails
    · next isHeaders =>
      rw [if_pos (Or.inr isHeaders)]
      cases read : readHeaders value with
      | ok headers => simp [read] at fails
      | error cause =>
          rw [read] at fails
          exact ⟨cause, (Except.error.inj fails).symm⟩
    · next noHeaders =>
      rw [if_neg (not_or.mpr ⟨noTimeout, noHeaders⟩)]
      exact (Except.error.inj fails).symm

/-! ## Several settings -/

/-- Settings made of options one after the other, none of which fails. -/
inductive AreMade : Options → List (String × Json) → Options → Prop
  /-- Without settings the options stay. -/
  | nil (options : Options) : AreMade options [] options
  /-- The first setting is made, and then the others. -/
  | cons {options changed final : Options} {key : String} {value : Json}
    {rest : List (String × Json)} : Makes options key value changed →
    AreMade changed rest final → AreMade options ((key, value) :: rest) final

namespace AreMade

theorem keys_subset {settings : List (String × Json)} (made : AreMade options settings changed) :
    options.headers.keys ⊆ changed.headers.keys := by
  induction made with
  | nil options => exact Finset.Subset.refl _
  | cons first _ ih => exact first.keys_subset.trans ih

/-- Settings that are made can be made of any options. -/
theorem exists_makes {settings : List (String × Json)} (made : AreMade options settings changed)
    {setting : String × Json} (member : setting ∈ settings) :
    ∃ before after, Makes before setting.1 setting.2 after := by
  induction made with
  | nil options => exact absurd member List.not_mem_nil
  | @cons options changed _ _ _ _ first _ ih =>
      rcases List.mem_cons.mp member with rfl | below
      · exact ⟨options, changed, first⟩
      · exact ih below

end AreMade

theorem setAll_eq_none_iff {settings : List (String × Json)} :
    options.setAll settings = (changed, none) ↔ AreMade options settings changed := by
  induction settings generalizing options with
  | nil =>
      rw [setAll]
      constructor
      · rintro ⟨⟩
        exact .nil _
      · rintro ⟨⟩
        rfl
  | cons setting rest ih =>
      obtain ⟨key, value⟩ := setting
      rw [setAll]
      constructor
      · intro made
        cases outcome : options.set key value with
        | error error => simp [outcome] at made
        | ok next =>
            rw [outcome] at made
            exact .cons (set_eq_ok_iff.mp outcome) (ih.mp made)
      · rintro (_ | ⟨first, others⟩)
        rw [set_eq_ok_iff.mpr first]
        exact ih.mpr others

/-- The first setting that fails is reported, and those before it are made. -/
theorem setAll_eq_some_iff {settings : List (String × Json)} :
    options.setAll settings = (changed, some error) ↔
      ∃ before key value after, settings = before ++ (key, value) :: after ∧
        AreMade options before changed ∧ options.set key value = .error error := by
  induction settings generalizing options with
  | nil => simp [setAll]
  | cons setting rest ih =>
      obtain ⟨key, value⟩ := setting
      rw [setAll]
      constructor
      · intro made
        cases outcome : options.set key value with
        | error failure =>
            rw [outcome] at made
            cases made
            exact ⟨[], key, value, rest, rfl, .nil _, outcome⟩
        | ok next =>
            rw [outcome] at made
            obtain ⟨before, key', value', after, rfl, others, fails⟩ := ih.mp made
            exact ⟨(key, value) :: before, key', value', after, rfl,
              .cons (set_eq_ok_iff.mp outcome) others, (set_eq_error_iff next options).mp fails⟩
      · rintro ⟨before, key', value', after, parts, made, fails⟩
        cases made with
        | nil =>
            obtain ⟨same, rfl⟩ := List.cons.inj parts
            obtain ⟨rfl, rfl⟩ := Prod.mk.inj same
            rw [fails]
        | @cons _ next _ _ _ _ first others =>
            obtain ⟨same, rfl⟩ := List.cons.inj parts
            obtain ⟨rfl, rfl⟩ := Prod.mk.inj same
            rw [set_eq_ok_iff.mpr first]
            exact ih.mpr ⟨_, key', value', after, rfl, others,
              (set_eq_error_iff options next).mp fails⟩

/-- However many settings fail, no header is taken away. -/
theorem keys_subset_setAll (options : Options) (settings : List (String × Json)) :
    options.headers.keys ⊆ (options.setAll settings).1.headers.keys := by
  cases outcome : options.setAll settings with
  | mk changed failure =>
      cases failure with
      | none => exact (setAll_eq_none_iff.mp outcome).keys_subset
      | some error =>
          obtain ⟨_, _, _, _, _, made, _⟩ := setAll_eq_some_iff.mp outcome
          exact made.keys_subset

/-! ## The settings of a dictionary -/

section Merge

variable {settings : Dictionary Json}
  (stored : ∀ key value, settings.get? key = some value → value.IsStored)

include stored

/-- Settings that were made are settings that can be made. -/
theorem isSetting_of_areMade {entries : List (String × Json)}
    (made : AreMade options entries changed) (within : entries ⊆ settings.entries)
    (member : (key, value) ∈ entries) : IsSetting key value := by
  obtain ⟨before, after, makes⟩ := made.exists_makes member
  have given := (Dictionary.get?_eq_some_iff_mem settings).mpr (within member)
  exact (exists_makes_iff (stored key value given)).mp ⟨after, makes⟩

/-- The settings that are reported to fail: the one with the smallest name of those that
cannot be made. All with smaller names are made, and no others. -/
theorem merge_eq_some_iff :
    options.merge settings = (changed, some error) ↔
      ∃ key value, settings.get? key = some value ∧ options.set key value = .error error ∧
        (∀ smaller < key, ∀ other, settings.get? smaller = some other →
          IsSetting smaller other) ∧
        AreMade options (settings.restrict (· < key)).entries changed := by
  rw [merge, setAll_eq_some_iff]
  constructor
  · rintro ⟨before, key, value, after, parts, made, fails⟩
    have found : settings.get? key = some value := by
      rw [Dictionary.get?_eq_some_iff_mem, parts]
      exact List.mem_append_right before List.mem_cons_self
    have before_eq : before = (settings.restrict (· < key)).entries :=
      Dictionary.before_eq_filter settings parts
    refine ⟨key, value, found, fails, ?_, before_eq ▸ made⟩
    intro smaller less other given
    have inBefore : (smaller, other) ∈ before := by
      rw [before_eq]
      exact List.mem_filter.mpr
        ⟨(Dictionary.get?_eq_some_iff_mem settings).mp given, decide_eq_true less⟩
    exact isSetting_of_areMade stored made (parts ▸ List.subset_append_left _ _) inBefore
  · rintro ⟨key, value, found, fails, _, made⟩
    obtain ⟨before, after, parts⟩ :=
      List.append_of_mem ((Dictionary.get?_eq_some_iff_mem settings).mp found)
    exact ⟨before, key, value, after, parts,
      Dictionary.before_eq_filter settings parts ▸ made, fails⟩

/-- Nothing fails exactly if each setting can be made by itself. -/
theorem merge_eq_none_iff :
    (options.merge settings).2 = none ↔
      ∀ key value, settings.get? key = some value → IsSetting key value := by
  constructor
  · intro succeeds key value given
    have made := setAll_eq_none_iff.mp (Prod.ext rfl succeeds)
    exact isSetting_of_areMade stored made (List.Subset.refl _)
      ((Dictionary.get?_eq_some_iff_mem settings).mp given)
  · intro all
    cases outcome : (options.merge settings).2 with
    | none => rfl
    | some error =>
        obtain ⟨key, value, found, fails, _⟩ :=
          (merge_eq_some_iff stored).mp (Prod.ext rfl outcome)
        obtain ⟨changed, makes⟩ : ∃ changed, Makes options key value changed :=
          (exists_makes_iff (stored key value found)).mpr (all key value found)
        rw [set_eq_ok_iff.mpr makes] at fails
        cases fails

end Merge

end Questionnaire.Options
