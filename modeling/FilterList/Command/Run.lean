import FilterList.Command.Printing
import FilterList.Command.Report
import FilterList.Json.Library

/-!
What the program does for a command: what it prints and how it ends. Files and measured times are
given, so that a run is a function of them.
-/

namespace FilterList.Command

/-- Measured times: of compiling each list in milliseconds, and of the decisions on each set of
requests in microseconds. -/
structure Timings where
  compiling : List Float := []
  deciding : List (List Float) := []

def loadLists (files : Files) (paths : List Text) : Except Failure (List LoadedList) :=
  (LoadedList.loadAll files paths).mapError .load

open Printing

/-- The lists with the times that it took to compile them. -/
def withTimes (timings : Timings) (lists : List LoadedList) : List (LoadedList × Float) :=
  lists.zipIdx.map fun (list, i) => (list, timings.compiling.getD i 0)

def reportJson (timings : Timings) (lists : List LoadedList) : Json :=
  .array ((withTimes timings lists).map fun (list, time) => compileJson list time)

def reportLines (timings : Timings) (verbose : Bool) (lists : List LoadedList) : List String :=
  (withTimes timings lists).flatMap fun (list, time) => compileLines verbose list time

def runCompile (json : JsonLibrary) (files : Files) (timings : Timings) (verbose : Bool)
    (paths : List Text) (asJson : Bool) : Printing Unit := do
  let lists ← ofExcept (loadLists files paths)
  if asJson then
    let text ← ofExcept ((json.spread (reportJson timings lists)).mapError .reportUnwritten)
    print [String.ofList text]
  else print (reportLines timings verbose lists)

/-- The table of a name, if one is asked for. -/
def askedTable : Option Text → Except Failure (Option Table)
  | none => .ok none
  | some name =>
    match Table.ofName? name with
    | some table => .ok (some table)
    | none => .error (.unknownTable name)

def runDump (files : Files) (path : Text) (table : Option Text) : Printing Unit := do
  let table ← ofExcept (askedTable table)
  let list ← ofExcept ((LoadedList.load files path).mapError .load)
  print (dumpLines list.rules table)

def runCheck (files : Files) (paths : List Text) (page resource : Text) (trace : Bool) :
    Printing Unit := do
  let lists ← ofExcept (loadLists files paths)
  let scan := (Subscriptions.ofLoaded lists).evaluate (.ofUrls page resource)
  if trace then print (scan.events.map eventLine)
  print [verdictLine (.ofScan scan)]

/-- A text file all of which is UTF-8. -/
def readText (files : Files) (path : Text) : Except Failure Text :=
  match files path with
  | .error reason => .error (.load (.unreadable path reason))
  | .ok bytes =>
    match Utf8.toText? bytes with
    | some text => .ok text
    | none => .error (.notUtf8 path)

/-- How many requests have been answered, how many of these are blocked, and how many lines are no
requests. -/
structure BatchCounts where
  answered : Nat := 0
  blocked : Nat := 0
  malformed : Nat := 0

def BatchCounts.summary (counts : BatchCounts) : String :=
  toString counts.answered ++ " requests: " ++ toString counts.blocked ++ " blocked, " ++
    toString (counts.answered - counts.blocked) ++ " allowed, " ++ toString counts.malformed ++
    " malformed lines skipped"

/-- Answers a line of the requests, if it is one. -/
def answerLine (json : JsonLibrary) (subscriptions : Subscriptions) (counts : BatchCounts)
    (line : Text) : Printing BatchCounts := do
  let line := Text.trim line
  if line.isEmpty then return counts
  match json.readProbe line with
  | .error _ => return { counts with malformed := counts.malformed + 1 }
  | .ok probe =>
    let verdict := subscriptions.decide probe.request
    let blocked := counts.blocked + verdict.decision.isBlocked.toNat
    let text ← ofExcept ((json.write (replyJson probe verdict)).mapError .verdictUnwritten)
    print [String.ofList text]
    return { counts with answered := counts.answered + 1, blocked }

def runBatch (json : JsonLibrary) (files : Files) (paths : List Text) (requests : Text) :
    Printing Unit := do
  let lists ← ofExcept (loadLists files paths)
  let text ← ofExcept (readText files requests)
  let counts ← (Text.lines text).foldlM (answerLine json (.ofLoaded lists)) {}
  report counts.summary

/-- A set of requests to measure, by name. -/
structure BenchSet where
  name : String
  probes : List Probe

/-- The requests shaped after the lists' entries and the clean ones; a set without any is left
out. -/
def benchSets (lists : List LoadedList) (sample : Nat) : List BenchSet :=
  [BenchSet.mk "Rule-shaped requests" (lists.flatMap fun list => list.rules.probes sample),
    BenchSet.mk "Clean requests" (Probe.cleans (max sample 1))].filter (!·.probes.isEmpty)

def doubleRule : String := "".pushn '=' 60

def singleRule : String := "".pushn '-' 60

def banner (title : String) : List String := [doubleRule, title, doubleRule]

def benchSection (set : BenchSet) (passes : Nat) (measurement : Measurement) : List String :=
  [singleRule,
    "Benchmark: " ++ set.name ++ " (" ++ toString set.probes.length ++ " requests, " ++
      toString passes ++ " iterations)",
    singleRule,
    measurement.render set.name]

def summaryLine (set : BenchSet) (measurement : Measurement) : String :=
  padded 22 set.name ++ " P50 " ++ Decimal.ofFloat 2 measurement.p50Us ++ "μs  P99 " ++
    Decimal.ofFloat 2 measurement.p99Us ++ "μs"

def runBench (files : Files) (timings : Timings) (paths : List Text) (passes sample : Nat) :
    Printing Unit := do
  print (banner "ListGuard Benchmark")
  let lists ← ofExcept (loadLists files paths)
  let subscriptions := Subscriptions.ofLoaded lists
  let measured := (benchSets lists sample).zipIdx.map fun (set, i) =>
    (set, Measurement.ofPasses subscriptions set.probes passes (timings.deciding.getD i []))
  print (lists.zipIdx.map fun (list, i) =>
    "  " ++ String.ofList list.rules.label ++ " - " ++ toString list.rules.size ++
      " entries (" ++ Decimal.ofFloat 1 (timings.compiling.getD i 0) ++ "ms to compile)")
  print ["Warmup..."]
  print (measured.flatMap fun (set, measurement) => benchSection set passes measurement)
  print (banner "Summary")
  print (measured.map fun (set, measurement) => summaryLine set measurement)

/-- Carries out a command, with a library for JSON. -/
def perform (json : JsonLibrary) (files : Files) (timings : Timings) (invocation : Invocation) :
    Outcome :=
  outcome <| match invocation.command with
    | .compile lists asJson => runCompile json files timings invocation.verbose lists asJson
    | .dump list table => runDump files list table
    | .check lists page resource trace => runCheck files lists page resource trace
    | .batch lists requests => runBatch json files lists requests
    | .bench lists passes sample => runBench files timings lists passes sample

/-- A parser of command lines. Those that give no command it answers itself. -/
structure ArgumentParser where
  parse : List Text → Except Outcome Invocation

/-- The parser does as documented. -/
structure ArgumentParser.Meets (parser : ArgumentParser) : Prop where
  /-- An option that is required is given, with a value. -/
  listed : ∀ {arguments invocation}, parser.parse arguments = .ok invocation →
    invocation.command.lists ≠ []

/-- Carries out what a command line asks for. -/
def performArguments (parser : ArgumentParser) (json : JsonLibrary) (files : Files)
    (timings : Timings) (arguments : List Text) : Outcome :=
  match parser.parse arguments with
  | .ok invocation => perform json files timings invocation
  | .error refused => refused

/-- The reader of arguments of this development. -/
@[reducible] def parser : ArgumentParser where
  parse arguments := (Invocation.ofArguments arguments).mapError Outcome.refused

def run (files : Files) (timings : Timings) (invocation : Invocation) : Outcome :=
  perform Json.library files timings invocation

/-- The outcome of a command line. -/
def runArguments (files : Files) (timings : Timings) (arguments : List Text) : Outcome :=
  performArguments parser Json.library files timings arguments

end FilterList.Command
