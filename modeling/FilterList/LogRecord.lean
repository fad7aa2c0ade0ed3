import FilterList.Distinct
import FilterList.Evaluation
import FilterList.Rule.Rejection

/-!
What the library reports of its work. Records are data; a program may show their messages.
-/

namespace FilterList

inductive Level where
  | debug
  | trace
  deriving Repr, DecidableEq

inductive LogRecord where
  /-- A line is left out. -/
  | dropped (line : Text) (reason : Rule.Rejection)
  /-- The source of a regular expression cannot be read. -/
  | invalidPattern (source : Text)
  | compiled (list : Text) (lines entries dropped : Nat)
  | reduced (list : Text) (before after : Nat)
  | decided (resource : Text) (hit : Hit)
  deriving DecidableEq

namespace LogRecord

def level : LogRecord → Level
  | dropped _ _ => .trace
  | _ => .debug

def message : LogRecord → String
  | dropped line reason => "dropped filter '" ++ String.ofList line ++ "': " ++ reason.message
  | invalidPattern source =>
    let fault := ((UrlPattern.ofSource source).fault?.map Regex.library.message).getD "none"
    "Invalid regex pattern '" ++ String.ofList source ++ "': " ++ fault ++ "; rule will never match"
  | compiled list lines entries left =>
    "compiled " ++ String.ofList list ++ ": " ++ toString lines ++ " lines, " ++ toString entries ++
      " entries, " ++ toString left ++ " dropped"
  | reduced list before after =>
    "optimized " ++ String.ofList list ++ ": " ++ toString before ++ " -> " ++ toString after ++
      " entries"
  | decided resource hit =>
    let verdict := if hit.placement.table.isException then "allowed" else "blocked"
    String.ofList hit.list ++ ": " ++ String.ofList resource ++ " " ++ verdict ++ " by " ++
      hit.placement.table.name ++ " [" ++ hit.placement.entry.render ++ "]"

end LogRecord

/-- The record of an entry being built, if it can never match. -/
def Entry.records (entry : Entry) : List LogRecord :=
  entry.brokenSource?.toList.map .invalidPattern

/-- What a scan for the request has put on record. -/
def Scan.records (scan : Scan) (request : Request) : List LogRecord :=
  scan.reported.map (.decided request.resource)

def RuleSet.reductionRecord (rules : RuleSet) : LogRecord :=
  .reduced rules.label rules.size rules.distinct.size

end FilterList
