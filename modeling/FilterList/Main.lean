import FilterList.Command.Run

/-!
The program: reads the files that a command line names, measures where a command asks for it, and
prints the outcome.
-/

namespace FilterList.Command

/-- The paths whose files a command reads. -/
def paths : Command → List Text
  | compile lists _ => lists
  | dump list _ => [list]
  | check lists _ _ _ => lists
  | batch lists requests => lists ++ [requests]
  | bench lists _ _ => lists

/-- Error numbers of the system may come negated. -/
def readError : IO.Error → ReadError
  | .noFileOrDirectory .. => .notFound
  | .inappropriateType _ 21 _ => .isADirectory
  | .inappropriateType .. => .notADirectory
  | .permissionDenied .. => .other "Permission denied (os error 13)"
  | error@(.invalidArgument _ number _) =>
    if number = 36 || number = -36 then .nameTooLong else .other (toString error)
  | error => .other (toString error)

def readFile (path : Text) : IO (Except ReadError Bytes) := do
  try
    let bytes ← IO.FS.readBinFile (String.ofList path)
    return .ok bytes.toList
  catch error => return .error (readError error)

/-- The files named, read once each. -/
def readFiles (paths : List Text) : IO Files := do
  let contents ← paths.mapM fun path => return (path, ← readFile path)
  return fun path => (contents.lookup path).getD (.error .notFound)

/-- How many nanoseconds pass until `work` has an answer. -/
def timed (work : Unit → Nat) : IO Float := do
  let start ← IO.monoNanosNow
  let answer := work ()
  let stop ← if answer = 0 then IO.monoNanosNow else IO.monoNanosNow
  return Float.ofNat (stop - start)

def timeCompiling (files : Files) (paths : List Text) : IO (List Float) :=
  paths.mapM fun path => do
    let nanoseconds ← timed fun _ =>
      match LoadedList.load files path with
      | .ok list => list.rules.size
      | .error _ => 0
    return nanoseconds / 1000000

def timeDeciding (files : Files) (lists : List Text) (passes sample : Nat) :
    IO (List (List Float)) := do
  match LoadedList.loadAll files lists with
  | .error _ => return []
  | .ok loaded =>
    let subscriptions := Subscriptions.ofLoaded loaded
    (benchSets loaded sample).mapM fun set => do
      let rounds ← (List.range passes).mapM fun _ => set.probes.mapM fun probe => do
        let nanoseconds ← timed fun _ => subscriptions.countBlocked [probe]
        return nanoseconds / 1000
      return rounds.flatten

def measure (files : Files) (command : Command) : IO Timings := do
  let compiling ← match command with
    | compile lists _ | bench lists _ _ => timeCompiling files lists
    | _ => pure []
  let deciding ← match command with
    | bench lists passes sample => timeDeciding files lists passes sample
    | _ => pure []
  return { compiling, deciding }

def outcomeOf (arguments : List Text) : IO Outcome := do
  match parser.parse arguments with
  | .error refused => return refused
  | .ok invocation =>
    let files ← readFiles invocation.command.paths
    return run files (← measure files invocation.command) invocation

end FilterList.Command

def main (arguments : List String) : IO UInt32 := do
  let outcome ← FilterList.Command.outcomeOf (arguments.map String.toList)
  IO.print outcome.output
  IO.eprint outcome.errors
  if outcome.code = 2 then IO.eprint FilterList.Command.usage
  return outcome.code.toUInt32
