/-
# Settings of a client

What setting one option does, what merging several settings does, and what no sequence of
requests does. A setting is made as a whole or not at all; merging is setting in ascending
order of the names up to the first failure; and headers are overridden but never taken away,
whatever else a client is asked for in between. The values are those that JSON can hold:
whole numbers of 64 bits, which is all that the reader of JSON ever gives.
-/

import Questionnaire.Proofs.Client.History
import Questionnaire.Proofs.Options.Settings

namespace Questionnaire

namespace Options

variable (options : Options) (key : String) (value : Json)

/-- What it means that an option is set as a whole or not at all. -/
structure IsSetAtOnce : Prop where
  /-- Whether it is set depends on the setting alone. -/
  succeeds : (∃ changed, options.set key value = .ok changed) ↔ IsSetting key value
  /-- If it is set, this option changes as described, -/
  makes : ∀ changed, options.set key value = .ok changed ↔ options.Makes key value changed
  /-- shows what it was set to, -/
  shows : ∀ changed, options.set key value = .ok changed →
    key = "timeout" ∧ changed.get? key = some value ∨
      key = "headers" ∧ ∃ shown, changed.get? key = some shown ∧ shown.IsObjectOf changed.headers
  /-- and no other option changes. -/
  keeps : ∀ changed, options.set key value = .ok changed →
    ∀ other, other ≠ key → changed.get? other = options.get? other
  /-- If it is not set, the error says whether there is such an option, -/
  fails : ∀ error, options.set key value = .error error →
    if key = "timeout" ∨ key = "headers" then ∃ cause, error = .invalid key cause
    else error = .unknown key
  /-- and any other options give the same error. -/
  error_alike : ∀ error other, options.set key value = .error error →
    Options.set other key value = .error error
  /-- All of this is also what comes of the detour over one JSON object for all options. -/
  detour : options.setInJson key value = options.set key value

/-- What it means that settings are merged in order. -/
structure IsMergedInOrder (options : Options) (settings : Dictionary Json) : Prop where
  /-- Nothing fails exactly if each setting can be made by itself. -/
  succeeds : (options.merge settings).2 = none ↔
    ∀ key value, settings.get? key = some value → IsSetting key value
  /-- If nothing fails, all settings are made. -/
  all : ∀ changed, options.merge settings = (changed, none) ↔
    AreMade options settings.entries changed
  /-- Otherwise the error is that of the smallest name whose setting cannot be made, and the
  settings with smaller names are made and no others. -/
  stops : ∀ changed error, options.merge settings = (changed, some error) ↔
    ∃ key value, settings.get? key = some value ∧ options.set key value = .error error ∧
      (∀ smaller < key, ∀ other, settings.get? smaller = some other → IsSetting smaller other) ∧
      AreMade options (settings.restrict (· < key)).entries changed

theorem isSetAtOnce {options : Options} {key : String} {value : Json} (stored : value.IsStored) :
    options.IsSetAtOnce key value where
  succeeds := by simp only [set_eq_ok_iff, exists_makes_iff stored]
  makes _ := set_eq_ok_iff
  shows _ made := (set_eq_ok_iff.mp made).shows
  keeps _ made _ := (set_eq_ok_iff.mp made).get?_of_ne
  fails _ := error_of_set
  error_alike _ other := (set_eq_error_iff options other).mp
  detour := (set_eq_setInJson options key value).symm

theorem isMergedInOrder {options : Options} {settings : Dictionary Json}
    (stored : ∀ key value, settings.get? key = some value → value.IsStored) :
    options.IsMergedInOrder settings where
  succeeds := merge_eq_none_iff stored
  all _ := setAll_eq_none_iff
  stops _ _ := merge_eq_some_iff stored

end Options

namespace Client

/-- A setting changes nothing of a client but its options, and a setting that cannot be made
changes nothing at all. -/
theorem setOption_eq (client : Client) (key : String) (value : Json) :
    (∀ changed, client.options.set key value = .ok changed →
      client.setOption key value = ({ client with options := changed }, none)) ∧
    ∀ error, client.options.set key value = .error error →
      client.setOption key value = (client, some error) := by
  refine ⟨?_, ?_⟩ <;> intro _ outcome <;> rw [setOption, outcome]

/-- No request takes a header away. -/
theorem keys_subset_settle (options : Options) (request : Request) :
    options.headers.keys ⊆ (request.settle options).headers.keys := by
  cases request with
  | ask question => exact Finset.Subset.refl _
  | operate operation =>
      cases operation with
      | load _ | loadPage _ | validate _ | post _ => exact Finset.Subset.refl _
      | setOption key value =>
          rw [Request.settle]
          cases outcome : options.set key value with
          | error error => exact Finset.Subset.refl _
          | ok changed => exact (Options.set_eq_ok_iff.mp outcome).keys_subset
      | mergeOptions settings => exact Options.keys_subset_setAll options settings.entries

theorem keys_subset_run (web : Web) (client : Client) (requests : List Request) :
    client.options.headers.keys ⊆ (client.run web requests).1.options.headers.keys := by
  induction requests generalizing client with
  | nil => exact Finset.Subset.refl _
  | cons request rest ih =>
      have served : (client.serve web request).1.options = request.settle client.options := by
        rw [serve_state]
      apply (keys_subset_settle client.options request).trans
      rw [← served]
      exact ih (client.serve web request).1

/-- How options change. A setting is made as a whole or not at all, whatever the options are:
it is made if it is a timeout of 64 bits or an object of texts for headers, it changes this
option alone, and where it fails a client stays as it is. Settings are merged in ascending
order of their names up to the first one that cannot be made. No sequence of requests takes a
header away. Values are taken as JSON keeps them, and every value that is read is one. -/
theorem settings_are_atomic_and_ordered :
    (∀ (options : Options) (key : String) (value : Json), value.IsStored →
      options.IsSetAtOnce key value) ∧
    (∀ (client : Client) (key : String) (value : Json),
      (∀ changed, client.options.set key value = .ok changed →
        client.setOption key value = ({ client with options := changed }, none)) ∧
      ∀ error, client.options.set key value = .error error →
        client.setOption key value = (client, some error)) ∧
    (∀ (options : Options) (settings : Dictionary Json),
      (∀ key value, settings.get? key = some value → value.IsStored) →
      options.IsMergedInOrder settings) ∧
    (∀ (client : Client) (settings : Dictionary Json),
      client.mergeOptions settings =
        ({ client with options := (client.options.merge settings).1 },
          (client.options.merge settings).2)) ∧
    (∀ (web : Web) (client : Client) (requests : List Request),
      client.options.headers.keys ⊆ (client.run web requests).1.options.headers.keys) ∧
    ∀ (source : String) (value : Json), Json.parse? source = some value → value.IsStored := by
  refine ⟨fun _ _ _ => Options.isSetAtOnce, setOption_eq, fun _ _ => Options.isMergedInOrder,
    fun _ _ => rfl, keys_subset_run, fun _ _ => Json.isStored_of_parse?⟩

/-- Options with one header. -/
def plainOptions : Options := ⟨30, Dictionary.ofList [("Accept", "text/html")]⟩

/-- New headers, one of them for a header that is there. -/
def newHeaders : Json := .object [("Accept", .string "*/*"), ("From", .string "me")]

/-- Settings of which the second one, by name, cannot be made. -/
def mixedSettings : Dictionary Json :=
  Dictionary.ofList [("timeout", .ofNat 5), ("retries", .boolean true), ("headers", newHeaders)]

theorem isObjectOf_newHeaders :
    newHeaders.IsObjectOf (Dictionary.ofList [("Accept", "*/*"), ("From", "me")]) := rfl

/-- Of the mixed settings the headers are set, because their name is smaller than the one that
fails, and the timeout is not. -/
theorem settings_are_atomic_and_ordered_mixedSettings :
    (∀ key value, mixedSettings.get? key = some value → value.IsStored) ∧
      plainOptions.merge mixedSettings =
        (⟨30, Dictionary.ofList [("Accept", "*/*"), ("From", "me")]⟩,
          some (.unknown "retries")) := by
  have entries : mixedSettings.entries =
      [("headers", newHeaders), ("retries", .boolean true), ("timeout", .ofNat 5)] := rfl
  have stored : ∀ key value, mixedSettings.get? key = some value → value.IsStored := by
    intro key value given
    rw [Dictionary.get?_eq_some_iff_mem, entries] at given
    simp only [List.mem_cons, List.not_mem_nil, or_false, Prod.mk.injEq] at given
    rcases given with ⟨-, rfl⟩ | ⟨-, rfl⟩ | ⟨-, rfl⟩
    · exact .object (by simp [Json.IsStored.string])
    · exact .boolean true
    · exact .number (by decide : 5 < Nat.pow 2 64)
  obtain ⟨-, -, merging, -⟩ := settings_are_atomic_and_ordered
  refine ⟨stored, ((merging plainOptions mixedSettings stored).stops _ _).mpr
    ⟨"retries", .boolean true, rfl, rfl, ?_, ?_⟩⟩
  · intro smaller less other given
    rw [Dictionary.get?_eq_some_iff_mem, entries] at given
    simp only [List.mem_cons, List.not_mem_nil, or_false, Prod.mk.injEq] at given
    rcases given with ⟨rfl, rfl⟩ | ⟨rfl, -⟩ | ⟨rfl, -⟩
    · exact Or.inr ⟨rfl, _, isObjectOf_newHeaders⟩
    · exact absurd less (String.lt_irrefl _)
    · exact absurd less (by decide +kernel)
  · show Options.AreMade plainOptions [("headers", newHeaders)] _
    refine .cons (.headers isObjectOf_newHeaders ?_) (.nil _)
    intro name
    by_cases isAccept : name = "Accept" <;> by_cases isFrom : name = "From" <;>
      simp [plainOptions, Dictionary.ofList, Dictionary.insertAll, isAccept, isFrom]

end Client

end Questionnaire
