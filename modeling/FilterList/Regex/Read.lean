import FilterList.Regex.Bracket
import FilterList.Unicode.Latest

/-!
Reading a regular expression from its text. The reader keeps the groups that are still open and
goes through the text from left to right; flags hold to the end of the group they stand in.
-/

namespace FilterList.Regex
open Unicode

/-- The alternatives of a group so far. Items come latest first; a flag group leaves `none`, an
item that cannot be repeated. -/
structure Branches where
  items : List (Option Expr) := []
  earlier : List Expr := []

namespace Branches

def add (branches : Branches) (expr : Expr) : Branches :=
  { branches with items := some expr :: branches.items }

/-- The expression of the alternative being read. -/
def current (branches : Branches) : Expr := .sequence (branches.items.reverse.filterMap id)

/-- Begins the next alternative. -/
def next (branches : Branches) : Branches := ⟨[], branches.current :: branches.earlier⟩

def toExpr (branches : Branches) : Expr :=
  match branches.earlier.reverse with
  | [] => branches.current
  | first :: rest => .choice first (rest ++ [branches.current])

end Branches

/-- A group that is still open: what surrounds it, and the mode to go back to after it. -/
structure OpenGroup where
  around : Branches
  mode : Mode

structure Reader where
  branches : Branches := {}
  mode : Mode := {}
  groups : List OpenGroup := []
  names : List Text := []

namespace Reader

def add (reader : Reader) (expr : Expr) : Reader :=
  { reader with branches := reader.branches.add expr }

def openGroup (reader : Reader) (mode : Mode) : Reader :=
  { reader with branches := {}, mode, groups := ⟨reader.branches, reader.mode⟩ :: reader.groups }

def closeGroup (reader : Reader) : Except Fault Reader :=
  match reader.groups with
  | [] => .error .unopenedGroup
  | group :: groups =>
    .ok { reader with
      branches := group.around.add reader.branches.toExpr, mode := group.mode, groups }

/-- The latest item comes back repeated. -/
def repeatLast (reader : Reader) (least : Nat) (most : Option Nat) : Except Fault Reader :=
  match reader.branches.items with
  | some expr :: items =>
    .ok { reader with
      branches := { reader.branches with items := some (.loop expr least most) :: items } }
  | _ => .error .nothingToRepeat

end Reader

/-- A question mark right after a repetition makes it reluctant, which changes no match. -/
def dropReluctance (text : Text) : Text := text.dropLead ['?']

/-- A decimal number that fits into 32 bits, with blanks around it; `none` where no digit stands. -/
def readDecimal (mode : Mode) (text : Text) : Except Fault (Option Nat × Text) :=
  let (digits, rest) := mode.collect Char.isDigit false (Text.trimStart text)
  let value := Text.decimalValue digits
  if digits.isEmpty then .ok (none, Text.trimStart rest)
  else if value < 1 <<< 32 then .ok (some value, Text.trimStart rest)
  else .error .badCount

/-- The bounds of a counted repetition, from after its opening brace. -/
def readCount (mode : Mode) (text : Text) : Except Fault (Nat × Option Nat × Text) := do
  let (least?, rest) ← readDecimal mode (mode.skip text)
  let some least := least? | throw .badCount
  match rest with
  | '}' :: rest => return (least, some least, mode.skip rest)
  | ',' :: rest =>
    match mode.skip rest with
    | '}' :: rest => return (least, none, mode.skip rest)
    | rest =>
      let (most?, rest) ← readDecimal mode rest
      let some most := most? | throw .badCount
      match rest with
      | '}' :: rest =>
        if least ≤ most then return (least, some most, mode.skip rest) else throw .badCount
      | _ => throw .unclosedCount
  | _ => throw .unclosedCount

/-- The flags of a group from after its question mark, up to the colon or closing parenthesis that
ends them. No flag and no minus may stand twice, nor a minus last. -/
def readFlags (mode : Mode) (on : Bool) (seen : List Char) :
    Text → Except Fault (Mode × List Char × Char × Text)
  | [] => .error .unclosedGroup
  | c :: rest =>
    if c == ':' || c == ')' then
      if seen.head? == some '-' then .error .badFlags else .ok (mode, seen, c, rest)
    else if seen.contains c then .error .badFlags
    else if c == '-' then readFlags mode false (c :: seen) rest
    else match mode.set? c on with
      | none => .error .badFlags
      | some mode => readFlags mode on (c :: seen) rest

def startsName (c : Char) : Bool := c == '_' || Latest.alphabetic.contains c

def continuesName (c : Char) : Bool :=
  startsName c || c == '.' || c == '[' || c == ']' || Latest.number.contains c

/-- A group name, up to the bracket that closes it. -/
def readName (text : Text) : Except Fault (Text × Text) :=
  match Text.cut? '>' text with
  | none => .error .badGroupName
  | some (name, rest) =>
    if name.head?.any startsName && name.tail.all continuesName then .ok (name, rest)
    else .error .badGroupName

namespace Reader

def openNamed (reader : Reader) (text : Text) : Except Fault (Reader × Text) := do
  let (name, rest) ← readName text
  if reader.names.contains name then throw .repeatedGroupName
  return ({ reader with names := name :: reader.names }.openGroup reader.mode, rest)

/-- What an opening parenthesis begins: a group, or a switch of flags. -/
def readOpening (reader : Reader) (text : Text) : Except Fault (Reader × Text) :=
  match reader.mode.skip text with
  | '?' :: '=' :: _ | '?' :: '!' :: _ | '?' :: '<' :: '=' :: _ | '?' :: '<' :: '!' :: _ =>
    .error .lookAround
  | '?' :: 'P' :: '<' :: rest | '?' :: '<' :: rest => reader.openNamed rest
  | '?' :: rest => do
    let (mode, seen, stop, rest) ← readFlags reader.mode true [] rest
    if stop == ':' then return (reader.openGroup mode, rest)
    else if seen.isEmpty then throw .nothingToRepeat
    else
      let branches := { reader.branches with items := none :: reader.branches.items }
      return ({ reader with branches, mode }, rest)
  | rest => .ok (reader.openGroup reader.mode, rest)

/-- One character. Outside Unicode mode a byte beyond ASCII is a part of a character. -/
def literal (reader : Reader) (c : Char) (byte : Bool) : Except Fault Reader :=
  let mode := reader.mode
  if byte && !mode.unicode && 0x80 ≤ c.toNat then .error .splitsCharacter
  else .ok (reader.add (.chars (Bracket.fold mode (.single c))))

/-- Any character, by default except the end of a line. -/
def dot (reader : Reader) : Except Fault Reader :=
  let mode := reader.mode
  if !mode.unicode then .error .splitsCharacter
  else if mode.dotAll then .ok (reader.add (.chars (.compl .empty)))
  else if mode.crlf then .ok (reader.add (.chars (.compl (.ofChars ['\r', '\n']))))
  else .ok (reader.add (.chars (.compl (.single '\n'))))

def lineStart (reader : Reader) : Reader :=
  let mode := reader.mode
  reader.add (.assertion
    (if !mode.multiLine then .textStart else if mode.crlf then .lineStartCrlf else .lineStart))

def lineEnd (reader : Reader) : Reader :=
  let mode := reader.mode
  reader.add (.assertion
    (if !mode.multiLine then .textEnd else if mode.crlf then .lineEndCrlf else .lineEnd))

/-- Reads the part of the expression that begins with the character `c`. -/
def step (reader : Reader) (c : Char) (rest : Text) : Except Fault (Reader × Text) :=
  match c with
  | '(' => reader.readOpening rest
  | ')' => do return (← reader.closeGroup, rest)
  | '|' => .ok ({ reader with branches := reader.branches.next }, rest)
  | '[' => do
    let (set, rest) ← Bracket.read reader.mode rest
    return (reader.add (.chars set), rest)
  | '?' => do return (← reader.repeatLast 0 (some 1), dropReluctance rest)
  | '*' => do return (← reader.repeatLast 0 none, dropReluctance rest)
  | '+' => do return (← reader.repeatLast 1 none, dropReluctance rest)
  | '{' => do
    let (least, most, rest) ← readCount reader.mode rest
    return (← reader.repeatLast least most, dropReluctance rest)
  | '.' => do return (← reader.dot, rest)
  | '^' => .ok (reader.lineStart, rest)
  | '$' => .ok (reader.lineEnd, rest)
  | '\\' => do
    let (atom, rest) ← readEscape reader.mode rest
    match atom with
    | .literal c byte => return (← reader.literal c byte, rest)
    | .charSet set => return (reader.add (.chars set), rest)
    | .assertion condition => return (reader.add (.assertion condition), rest)
  | c => do return (← reader.literal c false, rest)

/-- Reads the whole text. Each step reads at least one character, so the length of the text is
enough for the number of steps. -/
def run : Nat → Reader → Text → Except Fault Reader
  | 0, reader, _ => .ok reader
  | steps + 1, reader, text =>
    match reader.mode.skip text with
    | [] => .ok reader
    | c :: rest => do
      let (reader, rest) ← reader.step c rest
      run steps reader rest

/-- The expression read, once no group is open. -/
def finish (reader : Reader) : Except Fault Expr :=
  if reader.groups.isEmpty then .ok reader.branches.toExpr else .error .unclosedGroup

end Reader

/-- The expression that a text writes. -/
def read (text : Text) : Except Fault Expr := do
  (← Reader.run text.length {} text).finish

end FilterList.Regex
