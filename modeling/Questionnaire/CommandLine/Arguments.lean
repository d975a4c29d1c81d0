/-
# Arguments of the command line

A command is named by the first argument that is no option. The options of the
program stand before it, those of a command behind it, in any order with its
page. A value belongs to an option by an equals sign or as the next argument.
After two dashes alone every argument is a page. What is not understood is wrong
usage, and so is a missing part, one too many and an empty path. Arguments are
judged from left to right, and the first one that decides counts.
-/

namespace Questionnaire.CommandLine

/-- What to do with a page. -/
inductive Command where
  /-- Print the fields. -/
  | fields (page : String)
  /-- Judge the answers of a file. -/
  | validate (page : String) (values : String)
  /-- Print what submits the answers of a file. -/
  | parameters (page : String) (values : String)
  deriving Repr, DecidableEq

/-- What the arguments ask for. -/
inductive Request where
  /-- Print the version. -/
  | version
  /-- Print how the program is used. -/
  | help
  /-- Say that the arguments are wrong. -/
  | wrongUsage
  /-- Carry out a command. -/
  | run (command : Command)
  deriving Repr, DecidableEq

/-- The names of the commands. -/
def commandNames : List String := ["fields", "validate", "params"]

/-- What was found in the arguments of a command. -/
structure Found where
  /-- The page. -/
  page : Option String
  /-- The file with answers. -/
  values : Option String
  deriving Repr, DecidableEq

/-- The page or file of an option, which must not be given twice or be empty. -/
def setOnce (old : Option String) (path : String) : Option String :=
  if old.isSome || path = "" then none else some path

/-- The text of a long option behind its equals sign. -/
def optionValue? (option argument : String) : Option String :=
  let start := (option ++ "=").toList
  if start.isPrefixOf argument.toList then some (String.ofList (argument.toList.drop start.length))
  else none

/-- Whether an argument is an option and no path. A dash alone is a path. -/
def isOption (argument : String) : Bool :=
  argument.toList.head? == some '-' && argument != "-"

/-- The arguments of a command. The flags say whether the command takes a file
with answers and whether only pages follow. A failure is what the arguments
ask for instead. -/
def readArguments (takesValues onlyPages : Bool) (found : Found) :
    List String → Except Request Found
  | [] => .ok found
  | argument :: rest =>
    if onlyPages || !isOption argument then
      match setOnce found.page argument with
      | some page => readArguments takesValues onlyPages ⟨some page, found.values⟩ rest
      | none => .error .wrongUsage
    else if argument = "--" then readArguments takesValues true found rest
    else if argument = "--help" || argument.toList.take 2 = ['-', 'h'] then .error .help
    else if !takesValues then .error .wrongUsage
    else if argument = "--values" then
      match rest with
      | [] => .error .wrongUsage
      | path :: rest =>
        if isOption path then .error .wrongUsage
        else
          match setOnce found.values path with
          | some path => readArguments takesValues onlyPages ⟨found.page, some path⟩ rest
          | none => .error .wrongUsage
    else
      match (optionValue? "--values" argument).bind (setOnce found.values) with
      | some path => readArguments takesValues onlyPages ⟨found.page, some path⟩ rest
      | none => .error .wrongUsage

/-- The request of a command and its arguments. -/
def commandRequest (name : String) (arguments : List String) : Request :=
  match readArguments (name != "fields") false ⟨none, none⟩ arguments with
  | .error request => request
  | .ok found =>
    match name, found with
    | "fields", ⟨some page, none⟩ => .run (.fields page)
    | "validate", ⟨some page, some values⟩ => .run (.validate page values)
    | "params", ⟨some page, some values⟩ => .run (.parameters page values)
    | _, _ => .wrongUsage

/-- The request of a cluster of short options, given whether the option for more
output was found before. Without a request it tells whether it is found now. -/
def shortRequest (isVerbose : Bool) : List Char → Except Request Bool
  | [] => .ok isVerbose
  | 'v' :: rest => if isVerbose then .error .wrongUsage else shortRequest true rest
  | 'V' :: _ => .error .version
  | 'h' :: _ => .error .help
  | _ :: _ => .error .wrongUsage

/-- What the arguments ask for, given whether the option for more output was
found before. -/
def requestFrom (isVerbose : Bool) : List String → Request
  | [] => .wrongUsage
  | argument :: rest =>
    if commandNames.contains argument then commandRequest argument rest
    else if argument = "help" then
      match rest with
      | [] => .help
      | [name] => if commandNames.contains name || name = "help" then .help else .wrongUsage
      | _ => .wrongUsage
    else if argument = "--version" then .version
    else if argument = "--help" then .help
    else if argument = "--verbose" then
      if isVerbose then .wrongUsage else requestFrom true rest
    else
      match argument.toList with
      | '-' :: '-' :: _ => .wrongUsage
      | '-' :: c :: letters =>
        match shortRequest isVerbose (c :: letters) with
        | .error request => request
        | .ok isVerbose => requestFrom isVerbose rest
      | _ => .wrongUsage

/-- What the arguments ask for. -/
def request (arguments : List String) : Request :=
  requestFrom false arguments

end Questionnaire.CommandLine
