import FilterList.Command.Basic
import FilterList.LoadedList

/-!
How commands print and how they end. What has been printed stays so when a command fails later.
-/

namespace FilterList.Command

structure Outcome where
  code : Nat
  output : String
  errors : String
  deriving Repr, DecidableEq

namespace Outcome

def unlines (lines : List String) : String := String.join (lines.map (· ++ "\n"))

/-- Arguments that give no command. -/
def refused : Refusal → Outcome
  | .helpAsked => ⟨0, usage, ""⟩
  | .misused => ⟨2, "", ""⟩

end Outcome

/-- Why a command fails once its arguments are understood. -/
inductive Failure where
  | load (error : LoadError)
  | unknownTable (name : Text)
  | notUtf8 (path : Text)
  | reportUnwritten (reason : String)
  | verdictUnwritten (reason : String)
  deriving Repr, DecidableEq

def Failure.message : Failure → String
  | load error => error.message
  | unknownTable name => "Unknown rule table: " ++ String.ofList name
  | notUtf8 path =>
    "Failed to read '" ++ String.ofList path ++ "': stream did not contain valid UTF-8"
  | reportUnwritten reason => "Failed to serialize report: " ++ reason
  | verdictUnwritten reason => "Failed to serialize verdict: " ++ reason

/-- What a command has written to its two streams. -/
structure Printed where
  output : String := ""
  errors : String := ""
  deriving Repr, DecidableEq

/-- A part of a command's run: it prints, and it may fail with what has been printed before. -/
abbrev Printing := ExceptT Failure (StateM Printed)

namespace Printing

def print (lines : List String) : Printing Unit :=
  modify fun printed => { printed with output := printed.output ++ Outcome.unlines lines }

def report (line : String) : Printing Unit :=
  modify fun printed => { printed with errors := printed.errors ++ line ++ "\n" }

/-- How a command ends that runs like this. -/
def outcome (action : Printing Unit) : Outcome :=
  match action.run.run {} with
  | (.ok (), printed) => ⟨0, printed.output, printed.errors⟩
  | (.error failure, printed) =>
    ⟨1, printed.output, printed.errors ++ "Error: " ++ failure.message ++ "\n"⟩

end Printing

end FilterList.Command
