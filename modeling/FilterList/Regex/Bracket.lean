import FilterList.Regex.Escape

/-!
Character classes in brackets: items and ranges, classes inside classes, named ASCII classes,
and the operators `&&`, `--` and `~~`, which bind equally and to the left.
-/

namespace FilterList.Regex
open Unicode

inductive SetOperator where
  | inter
  | diff
  | symmDiff
  deriving Repr, DecidableEq

/-- A class that is still open: what its surrounding class holds so far, and, for each operator
met, its left operand. -/
structure OpenClass where
  outer : CharSet
  negated : Bool
  operand : Option (SetOperator × CharSet)

namespace Bracket

def fold (mode : Mode) (set : CharSet) : CharSet :=
  if mode.caseless then (if mode.unicode then set.caseless else set.asciiCaseless) else set

/-- A class closed up. Outside Unicode mode the complement would hold parts of characters. -/
def close (mode : Mode) (negated : Bool) (set : CharSet) : Except Fault CharSet :=
  if !negated then .ok (fold mode set)
  else if mode.unicode then .ok (fold mode set).compl
  else .error .splitsCharacter

/-- The class from the left operand and operator met before, if any, and what follows them. -/
def combine (mode : Mode) (operand : Option (SetOperator × CharSet)) (set : CharSet) : CharSet :=
  match operand with
  | none => set
  | some (.inter, left) => (fold mode left).inter (fold mode set)
  | some (.diff, left) => (fold mode left).diff (fold mode set)
  | some (.symmDiff, left) => (fold mode left).symmDiff (fold mode set)

/-- The characters after an opening bracket that stand for themselves there: hyphens, and a closing
bracket in first place. -/
def readOpening (mode : Mode) (text : Text) : Except Fault (Bool × CharSet × Text) :=
  match mode.skip text with
  | [] => .error .unclosedClass
  | c :: rest => do
    let negated := c == '^'
    let text := if negated then mode.skip rest else c :: rest
    let (hyphens, text) := mode.collect (· == '-') false text
    let set := if hyphens.isEmpty then .empty else .single '-'
    match text with
    | [] => .error .unclosedClass
    | ']' :: rest =>
      if hyphens.isEmpty then
        match mode.skip rest with
        | [] => .error .unclosedClass
        | text => return (negated, .single ']', text)
      else return (negated, set, text)
    | text => return (negated, set, text)

/-- The named class that starts right after an inner bracket, as in `[:alpha:]`. -/
def readNamed? (mode : Mode) (text : Text) : Option (Except Fault CharSet × Text) :=
  match text with
  | ':' :: rest =>
    let negated := rest.head? == some '^'
    let rest := if negated then rest.tail else rest
    match Text.cut? ':' rest with
    | some (name, ']' :: rest) =>
      (CharClass.named? name).map fun set => (close mode negated set, rest)
    | _ => none
  | _ => none

/-- The character after one that verbose mode lets be followed by blanks. -/
def peek (mode : Mode) (rest : Text) : Option Char :=
  if !mode.verbose then rest.head?
  else
    match rest.dropWhile Text.isBlank with
    | '#' :: rest => (rest.dropWhile Text.isBlank).head?
    | rest => rest.head?

/-- One item of a class or one end of a range. -/
def readItem (mode : Mode) : Text → Except Fault (Atom × Text)
  | [] => .error .unclosedClass
  | '\\' :: rest => readEscape mode rest
  | c :: rest => .ok (.literal c false, rest)

/-- A character as a member of a class. Outside Unicode mode it has to be ASCII. -/
def member (mode : Mode) (c : Char) (byte : Bool) : Except Fault Char :=
  if mode.unicode || c.toNat < 0x80 then .ok c
  else if byte then .error .splitsCharacter
  else .error .needsUnicode

def itemSet (mode : Mode) : Atom → Except Fault CharSet
  | .literal c byte => do return .single (← member mode c byte)
  | .charSet set => .ok set
  | .assertion _ => .error .badClassItem

def rangeEnd (mode : Mode) : Atom → Except Fault Char
  | .literal c byte => member mode c byte
  | _ => .error .badRange

/-- An item or a range. A hyphen before a closing bracket or another hyphen makes no range. -/
def readRange (mode : Mode) (text : Text) : Except Fault (CharSet × Text) := do
  let (first, rest) ← readItem mode text
  match mode.skip rest with
  | [] => .error .unclosedClass
  | '-' :: after =>
    let next := peek mode after
    if next == some ']' || next == some '-' then
      return (← itemSet mode first, '-' :: after)
    else
      match mode.skip after with
      | [] => .error .unclosedClass
      | after =>
        let (last, rest) ← readItem mode after
        let low ← rangeEnd mode first
        let high ← rangeEnd mode last
        if low.toNat ≤ high.toNat then return (.range low.toNat high.toNat, rest)
        else .error .badRange
  | rest => return (← itemSet mode first, rest)

/-- Reads on inside the class `current`, which stands in the classes `outer`. -/
def readClass (mode : Mode) :
    Nat → OpenClass → List OpenClass → CharSet → Text → Except Fault (CharSet × Text)
  | 0, _, _, _, _ => .error .unclosedClass
  | fuel + 1, current, outer, set, text =>
    let operator (kind : SetOperator) (rest : Text) :=
      readClass mode fuel { current with operand := some (kind, combine mode current.operand set) }
        outer .empty rest
    match mode.skip text with
    | [] => .error .unclosedClass
    | '[' :: rest =>
      match readNamed? mode rest with
      | some (named, rest) => do
        readClass mode fuel current outer (set.union (← named)) rest
      | none => do
        let (negated, inner, rest) ← readOpening mode rest
        readClass mode fuel ⟨set, negated, none⟩ (current :: outer) inner rest
    | ']' :: rest => do
      let closed ← close mode current.negated (combine mode current.operand set)
      match outer with
      | [] => return (closed, rest)
      | parent :: outer => readClass mode fuel parent outer (current.outer.union closed) rest
    | '&' :: '&' :: rest => operator .inter rest
    | '-' :: '-' :: rest => operator .diff rest
    | '~' :: '~' :: rest => operator .symmDiff rest
    | text => do
      let (item, rest) ← readRange mode text
      readClass mode fuel current outer (set.union item) rest

/-- A whole class, from after its opening bracket. Each step reads at least one character, so the
length of the text bounds their number. -/
def read (mode : Mode) (text : Text) : Except Fault (CharSet × Text) := do
  let (negated, set, rest) ← readOpening mode text
  readClass mode (rest.length + 1) ⟨.empty, negated, none⟩ [] set rest

end Bracket

end FilterList.Regex
