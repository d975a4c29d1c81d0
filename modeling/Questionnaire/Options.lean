/-
# Options of a client

A client has a timeout and request headers. Options are set by name and value.
A value of the wrong shape changes nothing, and headers that are set are added
to those there are. Several settings are made in ascending order of their names
up to the first one that fails, and those made before it stay.
-/

import Questionnaire.Json.Shape

namespace Questionnaire

/-- The options of a client. -/
@[ext]
structure Options where
  /-- How many seconds a request may take. -/
  timeout : Nat
  /-- Header names and their values. -/
  headers : Dictionary String
  deriving Repr, DecidableEq

/-- Why an option was not set. -/
inductive OptionError where
  /-- There is no option of that name. -/
  | unknown (key : String)
  /-- The value does not fit the option. -/
  | invalid (key : String) (cause : ShapeError)
  deriving Repr

/-- The error in words. -/
def OptionError.message : OptionError → String
  | .unknown key => "unknown option: " ++ key
  | .invalid key cause => "invalid value for option " ++ key ++ ": " ++ cause.message

namespace Options

/-- The options that a client starts with. -/
def default : Options := ⟨30, ∅⟩

instance : Inhabited Options := ⟨default⟩

/-- Read a timeout: a whole number of 64 bits. -/
def readTimeout : Json → Except ShapeError Nat
  | .number (.natural value) => .ok value
  | .number (.negative magnitude) => .error (.wrongValue (.number (.negative magnitude)) "u64")
  | value => .error (.wrongType value "u64")

/-- Read entries as texts, up to the first one that is none. -/
def readTexts : List (String × Json) → Except ShapeError (List (String × String))
  | [] => .ok []
  | (name, value) :: rest =>
    match value with
    | .string text =>
      match readTexts rest with
      | .error error => .error error
      | .ok texts => .ok ((name, text) :: texts)
    | other => .error (.wrongType other "a string")

/-- Read headers: an object whose members are texts. The members are judged in
ascending order of their names. -/
def readHeaders (value : Json) : Except ShapeError (List (String × String)) :=
  match value.members? with
  | none => .error (.wrongType value "a map")
  | some members => readTexts members.entries

/-- The headers as a JSON object. -/
def headersJson (options : Options) : Json :=
  .object (options.headers.entries.map (fun header => (header.1, .string header.2)))

/-- The value of an option, if there is one of that name. -/
def get? (options : Options) (key : String) : Option Json :=
  if key = "timeout" then some (Json.ofNat options.timeout)
  else if key = "headers" then some options.headersJson
  else none

/-- Set one option. Headers are added to those there are. -/
def set (options : Options) (key : String) (value : Json) : Except OptionError Options :=
  if key = "timeout" then
    match readTimeout value with
    | .error cause => .error (.invalid key cause)
    | .ok timeout => .ok { options with timeout }
  else if key = "headers" then
    match readHeaders value with
    | .error cause => .error (.invalid key cause)
    | .ok headers => .ok { options with headers := options.headers.insertAll headers }
  else .error (.unknown key)

/-- Make settings from left to right up to the first one that fails. The options
with all settings made before it are kept, and the failure is reported. -/
def setAll (options : Options) : List (String × Json) → Options × Option OptionError
  | [] => (options, none)
  | (key, value) :: rest =>
    match options.set key value with
    | .error error => (options, some error)
    | .ok changed => changed.setAll rest

/-- Make the settings of a dictionary in ascending order of their names. -/
def merge (options : Options) (settings : Dictionary Json) : Options × Option OptionError :=
  options.setAll settings.entries

/-- The options as a JSON object. -/
def toJson (options : Options) : Json :=
  .object [("timeout", Json.ofNat options.timeout), ("headers", options.headersJson)]

/-- Read headers into a dictionary. -/
def headersOfJson (value : Json) : Except ShapeError (Dictionary String) :=
  (readHeaders value).map Dictionary.ofList

/-- Read options from a JSON value. An object gives options by name, judged in
ascending order; other names are ignored. A list gives the timeout and then the
headers. What is not given is as in the default options. -/
def ofJson (value : Json) : Except ShapeError Options :=
  match value with
  | .array items =>
    match items with
    | [] => .ok default
    | timeout :: rest => do
      let timeout ← readTimeout timeout
      match rest with
      | [] => .ok { default with timeout }
      | headers :: others =>
        let headers ← headersOfJson headers
        if others.isEmpty then .ok ⟨timeout, headers⟩ else .error (.tooLong items.length)
  | .object members => do
    let given := Dictionary.ofList members
    let headers ← (given.get? "headers").elim (.ok default.headers) headersOfJson
    let timeout ← (given.get? "timeout").elim (.ok default.timeout) readTimeout
    .ok ⟨timeout, headers⟩
  | other => .error (.wrongType other "struct ClientOptions")

end Options

end Questionnaire
