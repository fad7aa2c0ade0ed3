import FilterList.Command.Arguments

/-!
The commands of the program and the arguments that give them.
-/

namespace FilterList

inductive Command where
  /-- Reports how lists compile. -/
  | compile (lists : List Text) (json : Bool)
  /-- Prints the entries of a list, of one table or of all. -/
  | dump (list : Text) (table : Option Text)
  /-- Decides one request. -/
  | check (lists : List Text) (page resource : Text) (trace : Bool)
  /-- Decides the requests of a file. -/
  | batch (lists : List Text) (requests : Text)
  /-- Measures decisions. -/
  | bench (lists : List Text) (passes sample : Nat)
  deriving Repr, DecidableEq

structure Invocation where
  verbose : Bool
  command : Command
  deriving Repr, DecidableEq

namespace Command

/-- The paths of the lists that a command works on. -/
def lists : Command → List Text
  | compile lists _ => lists
  | dump list _ => [list]
  | check lists _ _ _ => lists
  | batch lists _ => lists
  | bench lists _ _ => lists

def verboseOption : OptionSpec := ⟨"verbose", some 'v', .switch⟩
def inputsOption : OptionSpec := ⟨"input", some 'i', .many⟩
def inputOption : OptionSpec := ⟨"input", some 'i', .single⟩
def jsonOption : OptionSpec := ⟨"json", none, .switch⟩
def tableOption : OptionSpec := ⟨"table", some 't', .single⟩
def pageOption : OptionSpec := ⟨"page", none, .single⟩
def urlOption : OptionSpec := ⟨"url", none, .single⟩
def traceOption : OptionSpec := ⟨"trace", none, .switch⟩
def requestsOption : OptionSpec := ⟨"requests", some 'r', .single⟩
def iterationsOption : OptionSpec := ⟨"iterations", none, .count⟩
def sampleOption : OptionSpec := ⟨"sample", none, .count⟩

/-- Options alone; the verbose switch is known everywhere. -/
def readAll (specs : List OptionSpec) (arguments : List Text) : Except Refusal (List Given) := do
  match ← readOptions (verboseOption :: specs) [] arguments with
  | (found, []) => return found
  | _ => throw .misused

def require (value : Option α) : Except Refusal α :=
  match value with
  | some value => .ok value
  | none => .error .misused

def requireInputs (found : List Given) : Except Refusal (List Text) :=
  match Given.values found inputsOption with
  | [] => .error .misused
  | paths => .ok paths

/-- A count given by an option, or its default. -/
def countOr (default : Nat) (found : List Given) (option : OptionSpec) : Except Refusal Nat :=
  match Given.value? found option with
  | none => .ok default
  | some text => readCount text

/-- Help is asked for in general or on one command, itself among them. -/
def helpRefusal : List Text → Refusal
  | [] => .helpAsked
  | [topic] =>
    if ["compile", "dump", "check", "batch", "bench", "help"].contains (String.ofList topic) then
      .helpAsked
    else .misused
  | _ => .misused

/-- The command of a name with its options, and whether it is asked to be verbose. -/
def ofArguments (name : Text) (arguments : List Text) : Except Refusal (Command × Bool) :=
  match String.ofList name with
  | "compile" => do
    let found ← readAll [inputsOption, jsonOption] arguments
    let lists ← requireInputs found
    return (compile lists (Given.has found jsonOption), Given.has found verboseOption)
  | "dump" => do
    let found ← readAll [inputOption, tableOption] arguments
    let list ← require (Given.value? found inputOption)
    return (dump list (Given.value? found tableOption), Given.has found verboseOption)
  | "check" => do
    let found ← readAll [inputsOption, pageOption, urlOption, traceOption] arguments
    let lists ← requireInputs found
    let page ← require (Given.value? found pageOption)
    let resource ← require (Given.value? found urlOption)
    return (check lists page resource (Given.has found traceOption), Given.has found verboseOption)
  | "batch" => do
    let found ← readAll [inputsOption, requestsOption] arguments
    let lists ← requireInputs found
    let requests ← require (Given.value? found requestsOption)
    return (batch lists requests, Given.has found verboseOption)
  | "bench" => do
    let found ← readAll [inputsOption, iterationsOption, sampleOption] arguments
    let lists ← requireInputs found
    let passes ← countOr 100 found iterationsOption
    let sample ← countOr 1000 found sampleOption
    return (bench lists passes sample, Given.has found verboseOption)
  | "help" => .error (helpRefusal arguments)
  | _ => .error .misused

end Command

/-- How the program is called. -/
def Command.usage : String :=
  "Usage: [-v] <command>\n\n" ++
  "  compile -i <list>... [--json]\n" ++
  "  dump    -i <list> [-t <table>]\n" ++
  "  check   -i <list>... --page <url> --url <url> [--trace]\n" ++
  "  batch   -i <list>... -r <requests>\n" ++
  "  bench   -i <list>... [--iterations <n>] [--sample <n>]\n"

/-- What a command line asks for. -/
def Invocation.ofArguments (arguments : List Text) : Except Command.Refusal Invocation := do
  match ← Command.readOptions [Command.verboseOption] [] arguments with
  | (_, []) => throw .misused
  | (found, name :: rest) =>
    let (command, verbose) ← Command.ofArguments name rest
    return ⟨verbose || Command.Given.has found Command.verboseOption, command⟩

end FilterList
