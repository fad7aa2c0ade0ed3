import FilterList.Regex.Expr
import FilterList.Regex.Fault
import FilterList.Regex.Mode
import FilterList.Regex.Property

/-!
Escape sequences: what follows a backslash.
-/

namespace FilterList.Regex
open Unicode

/-- The smallest parts of an expression. -/
inductive Atom where
  /-- One character. `byte` marks one written as two hexadecimal digits, which outside Unicode mode
  stands for a byte. -/
  | literal (c : Char) (byte : Bool)
  | charSet (set : CharSet)
  | assertion (condition : Assertion)

def isHexDigit (c : Char) : Bool := (Text.hexDigit? c).isSome

/-- The character with a code point written in hexadecimal. -/
def charOfHex (digits : Text) : Except Fault Char :=
  let n := Text.hexValue digits
  if digits.isEmpty || !(n.isValidChar : Bool) then .error .badCodePoint else .ok (Char.ofNat n)

/-- A fixed number of hexadecimal digits. -/
def readHexDigits (mode : Mode) : Nat → Text → Except Fault (Text × Text)
  | 0, text => .ok ([], text)
  | _ + 1, [] => .error .endsInEscape
  | count + 1, c :: rest =>
    if isHexDigit c then do
      let (digits, rest) ← readHexDigits mode count (mode.skip rest)
      return (c :: digits, rest)
    else .error .badCodePoint

/-- A character by its code point, in braces or in `width` digits. -/
def readHex (mode : Mode) (width : Nat) (text : Text) : Except Fault (Atom × Text) :=
  match mode.skip text with
  | [] => .error .endsInEscape
  | '{' :: rest =>
    match mode.collect isHexDigit false rest with
    | (digits, '}' :: rest) => do return (.literal (← charOfHex digits) false, mode.skip rest)
    | (_, []) => .error .endsInEscape
    | _ => .error .badCodePoint
  | text => do
    let (digits, rest) ← readHexDigits mode width text
    return (.literal (← charOfHex digits) (width == 2), rest)

/-- The parts of a property in braces around `!=`, `:` or `=`, and whether it is denied. -/
def splitQuery (inner : Text) : PropertyQuery × Bool :=
  match notEqual? inner with
  | some (kind, name) => (.value kind name, true)
  | none =>
    match (Text.cut? ':' inner).orElse fun _ => Text.cut? '=' inner with
    | some (kind, name) => (.value kind name, false)
    | none => (.named inner, false)
where
  notEqual? : Text → Option (Text × Text)
    | [] => none
    | '!' :: '=' :: rest => some ([], rest)
    | c :: rest => (notEqual? rest).map fun (kind, name) => (c :: kind, name)

def propertySet (mode : Mode) (query : PropertyQuery) (negated : Bool) : Except Fault CharSet :=
  if !mode.unicode then .error .needsUnicode
  else match query.set? with
    | none => .error .unknownProperty
    | some set =>
      let set := if mode.caseless then set.caseless else set
      .ok (if negated then set.compl else set)

def readProperty (mode : Mode) (negated : Bool) (text : Text) : Except Fault (Atom × Text) :=
  match mode.skip text with
  | [] => .error .endsInEscape
  | '{' :: rest =>
    match mode.collect (· ≠ '}') false rest with
    | (inner, _ :: rest) => do
      let (query, denied) := splitQuery inner
      return (.charSet (← propertySet mode query (negated != denied)), rest)
    | (_, []) => .error .endsInEscape
  | c :: rest =>
    if c = '\\' then .error .unknownProperty
    else do return (.charSet (← propertySet mode (.letter c) negated), mode.skip rest)

/-- Digits, white space or word characters, or all others. Outside Unicode mode the others would
include parts of characters. -/
def shorthand (mode : Mode) (unicode ascii : CharSet) (negated : Bool) : Except Fault CharSet :=
  if mode.unicode then .ok (if negated then unicode.compl else unicode)
  else if negated then .error .splitsCharacter
  else .ok ascii

/-- The kind of word boundary that a brace right after `\b` may name. A brace that holds anything
but a name is left for a counted repetition. -/
def readBoundary (mode : Mode) (text : Text) : Except Fault (WordEdge × Text) :=
  match text with
  | '{' :: inner =>
    match mode.skip inner with
    | [] => .error .unclosedCount
    | c :: rest =>
      if isNameChar c then
        match mode.collect isNameChar false (c :: rest) with
        | (name, '}' :: rest) =>
          match String.ofList name with
          | "start" => .ok (.start, rest)
          | "end" => .ok (.stop, rest)
          | "start-half" => .ok (.startHalf, rest)
          | "end-half" => .ok (.stopHalf, rest)
          | _ => .error .unknownBoundary
        | _ => .error .unknownBoundary
      else .ok (.either, text)
  | _ => .ok (.either, text)
where
  isNameChar (c : Char) : Bool := c.isAlpha || c == '-'

/-- ASCII characters without a meaning of their own after a backslash stand for themselves, except
that letters, digits and angle brackets are kept for escapes. -/
def isEscapable (c : Char) : Bool :=
  c.toNat < 0x80 && !c.isAlphanum && c != '<' && c != '>'

def readEscape (mode : Mode) : Text → Except Fault (Atom × Text)
  | [] => .error .endsInEscape
  | c :: rest =>
    let literal (c : Char) : Except Fault (Atom × Text) := .ok (.literal c false, rest)
    let boundary (edge : WordEdge) : Except Fault (Atom × Text) :=
      .ok (.assertion (.word edge mode.unicode), rest)
    let classAtom (unicode ascii : CharSet) (negated : Bool) : Except Fault (Atom × Text) := do
      return (.charSet (← shorthand mode unicode ascii negated), rest)
    match c with
    | 'x' => readHex mode 2 rest
    | 'u' => readHex mode 4 rest
    | 'U' => readHex mode 8 rest
    | 'p' => readProperty mode false rest
    | 'P' => readProperty mode true rest
    | 'd' => classAtom CharClass.digit CharClass.asciiDigit false
    | 'D' => classAtom CharClass.digit CharClass.asciiDigit true
    | 's' => classAtom CharClass.space CharClass.asciiSpace false
    | 'S' => classAtom CharClass.space CharClass.asciiSpace true
    | 'w' => classAtom CharClass.word CharClass.asciiWord false
    | 'W' => classAtom CharClass.word CharClass.asciiWord true
    | 'a' => literal '\x07'
    | 'f' => literal '\x0c'
    | 't' => literal '\t'
    | 'n' => literal '\n'
    | 'r' => literal '\r'
    | 'v' => literal '\x0b'
    | 'A' => .ok (.assertion .textStart, rest)
    | 'z' => .ok (.assertion .textEnd, rest)
    | 'B' => boundary .neither
    | '<' => boundary .start
    | '>' => boundary .stop
    | 'b' => do
      let (edge, rest) ← readBoundary mode rest
      return (.assertion (.word edge mode.unicode), rest)
    | c =>
      if c.isDigit then .error .backReference
      else if isEscapable c then literal c
      else .error .unknownEscape

end FilterList.Regex
