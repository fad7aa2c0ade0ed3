import FilterList.Text.Basic

/-!
Arguments of a command line, read by a table of the options that a command takes.
-/

namespace FilterList.Command

/-- What an option takes and how often it may be given. -/
inductive OptionKind where
  | switch
  | single
  /-- Once, with a whole number. -/
  | count
  | many
  deriving Repr, DecidableEq

structure OptionSpec where
  long : String
  short : Option Char
  kind : OptionKind
  deriving Repr, DecidableEq

/-- Why arguments are not carried out. -/
inductive Refusal where
  | helpAsked
  | misused
  deriving Repr, DecidableEq

/-- An option as given, with its value if it takes one. -/
structure Given where
  option : OptionSpec
  value : Text
  deriving Repr, DecidableEq

/-- Whether an argument cannot be the value of the option before it. A single hyphen can. -/
def looksLikeOption (argument : Text) : Bool :=
  argument.head? == some '-' && argument.length > 1

def help : OptionSpec := ⟨"help", some 'h', .switch⟩

/-- What an argument asks for. -/
inductive Piece where
  | given (given : Given)
  /-- The value is the next argument. -/
  | needsValue (option : OptionSpec)
  | help
  deriving Repr, DecidableEq

/-- An argument that begins with two hyphens, from after them. -/
def readLong (specs : List OptionSpec) (argument : Text) : Except Refusal Piece :=
  let (name, value) := match Text.cut? '=' argument with
    | some (name, value) => (name, some value)
    | none => (argument, none)
  match (help :: specs).find? fun spec => spec.long.toList == name with
  | none => .error .misused
  | some spec =>
    match spec.kind, value with
    | .switch, none => .ok (if spec = help then .help else .given ⟨spec, []⟩)
    | .switch, some _ => .error .misused
    | _, none => .ok (.needsValue spec)
    | _, some value => .ok (.given ⟨spec, value⟩)

/-- An argument that begins with one hyphen, from after it. Switches may stand together, and the
rest after an option with a value is that value. -/
def readShort (specs : List OptionSpec) : Text → Except Refusal (List Piece)
  | [] => .ok []
  | c :: rest =>
    match (help :: specs).find? fun spec => spec.short == some c with
    | none => .error .misused
    | some spec =>
      match spec.kind with
      | .switch =>
        if spec = help then .ok [.help]
        else do return .given ⟨spec, []⟩ :: (← readShort specs rest)
      | _ =>
        if rest.isEmpty then .ok [.needsValue spec]
        else .ok [.given ⟨spec, Text.dropLead rest ['=']⟩]

/-- A whole number below `2 ^ 64`, with or without a plus sign. -/
def readCount (text : Text) : Except Refusal Nat :=
  let digits := text.dropLead ['+']
  let n := Text.decimalValue digits
  if digits.isEmpty || !digits.all Char.isDigit || n ≥ 1 <<< 64 then .error .misused else .ok n

/-- Only options given as often as they may be, with values that they can take. -/
def addGiven (found : List Given) (given : Given) : Except Refusal (List Given) :=
  if given.option.kind != .many && found.any fun other => other.option == given.option then
    .error .misused
  else do
    if given.option.kind = .count then
      let _ ← readCount given.value
    return found ++ [given]

/-- Takes account of the options of one argument, of which help ends the reading; `some` names the
option that waits for a value. -/
def addPieces (found : List Given) : List Piece → Except Refusal (List Given × Option OptionSpec)
  | [] => .ok (found, none)
  | [.needsValue option] => .ok (found, some option)
  | .needsValue _ :: _ :: _ => .error .misused
  | .help :: _ => .error .helpAsked
  | .given given :: rest => do addPieces (← addGiven found given) rest

/-- The options of one argument, if it is one of options. -/
def readArgument? (specs : List OptionSpec) (argument : Text) :
    Option (Except Refusal (List Piece)) :=
  match argument with
  | '-' :: '-' :: name => some ((readLong specs name).map fun piece => [piece])
  | '-' :: c :: letters => some (readShort specs (c :: letters))
  | _ => none

/-- Reads arguments up to the first that is no option, which is left with those after it. Two
hyphens alone end the options. -/
def readOptions (specs : List OptionSpec) (found : List Given) :
    List Text → Except Refusal (List Given × List Text)
  | [] => .ok (found, [])
  | argument :: rest =>
    if argument = ['-', '-'] then
      if rest.isEmpty then .ok (found, []) else .error .misused
    else match readArgument? specs argument with
      | none => .ok (found, argument :: rest)
      | some pieces => do
        let (found, waiting) ← addPieces found (← pieces)
        match waiting, rest with
        | none, rest => readOptions specs found rest
        | some _, [] => .error .misused
        | some option, value :: rest =>
          if looksLikeOption value then .error .misused
          else do readOptions specs (← addGiven found ⟨option, value⟩) rest

namespace Given

def values (found : List Given) (option : OptionSpec) : List Text :=
  (found.filter (·.option == option)).map (·.value)

def value? (found : List Given) (option : OptionSpec) : Option Text := (values found option).head?

def has (found : List Given) (option : OptionSpec) : Bool := found.any (·.option == option)

end Given

end FilterList.Command
