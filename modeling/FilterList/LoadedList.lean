import FilterList.Compilation
import FilterList.Files
import FilterList.Subscriptions

/-!
Lists read from files, compiled, and freed of repeated entries. A list that gives itself no title
goes by the name of its file.
-/

namespace FilterList

structure LoadedList where
  path : Text
  rules : RuleSet
  tally : Tally
  reduction : Reduction

/-- Why lists cannot be loaded. -/
inductive LoadError where
  | noPaths
  | unreadable (path : Text) (reason : ReadError)
  deriving Repr, DecidableEq

def LoadError.message : LoadError → String
  | noPaths => "No input files specified"
  | unreadable path reason =>
    "Failed to read '" ++ String.ofList path ++ "': " ++ reason.message

namespace RuleSet

def orTitled (rules : RuleSet) (title : Text) : RuleSet :=
  { rules with header.title := some (rules.header.title.getD title) }

end RuleSet

namespace LoadedList

def ofBytes (path : Text) (bytes : Bytes) : LoadedList :=
  let compilation := Compilation.ofBytes bytes
  { path
    rules := compilation.rules.distinct.orTitled (Path.fileName path)
    tally := compilation.tally
    reduction := compilation.rules.reduction }

def load (files : Files) (path : Text) : Except LoadError LoadedList :=
  match files path with
  | .ok bytes => .ok (ofBytes path bytes)
  | .error reason => .error (.unreadable path reason)

/-- All lists in order, or the first that cannot be read. -/
def loadAll (files : Files) (paths : List Text) : Except LoadError (List LoadedList) :=
  if paths.isEmpty then .error .noPaths else paths.mapM (load files)

end LoadedList

def Subscriptions.ofLoaded (lists : List LoadedList) : Subscriptions := ⟨lists.map (·.rules)⟩

def Subscriptions.load (files : Files) (paths : List Text) : Except LoadError Subscriptions := do
  return .ofLoaded (← LoadedList.loadAll files paths)

end FilterList
