/-
# The program

The program reads the files that its arguments ask for, runs the command on
them and prints what comes of it.
-/

import Questionnaire.CommandLine.Run

open Questionnaire

/-- The text of a file, if it can be read. -/
def readText (path : String) : IO (Option String) := do
  try
    let text ← IO.FS.readFile path
    return some text
  catch _ =>
    return none

/-- The files that arguments ask for. -/
def readFiles (arguments : List String) : IO CommandLine.Files := do
  match CommandLine.request arguments with
  | .run command =>
    let texts ← command.paths.mapM fun path => do
      return (path, ← readText path)
    return fun path => (texts.lookup path).join
  | _ => return fun _ => none

/-- Run the program. -/
def main (arguments : List String) : IO UInt32 := do
  let ending := CommandLine.run (← readFiles arguments) arguments
  (← IO.getStdout).putStr ending.output
  (← IO.getStderr).putStr ending.complaint
  return ending.code.toUInt32
