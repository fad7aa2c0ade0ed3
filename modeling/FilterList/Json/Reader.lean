import FilterList.Sampling

/-!
Reading a page and a resource URL from a line of JSON. Only the two strings are decoded; other
members are passed over, and of those no more is asked than that they are JSON.
-/

namespace FilterList.Json

def isSpace (c : Char) : Bool := c == ' ' || c == '\n' || c == '\t' || c == '\r'

def skipSpace (text : Text) : Text := text.dropWhile isSpace

/-- Four hexadecimal digits. -/
def readUnit? : Text → Option (Nat × Text)
  | a :: b :: c :: d :: rest =>
    if [a, b, c, d].all fun digit => (Text.hexDigit? digit).isSome then
      some (Text.hexValue [a, b, c, d], rest)
    else none
  | _ => none

def isHighSurrogate (n : Nat) : Bool := 0xD800 ≤ n && n ≤ 0xDBFF

def isLowSurrogate (n : Nat) : Bool := 0xDC00 ≤ n && n ≤ 0xDFFF

/-- The character written by one or two units of four digits. Half of a pair is no character. -/
def readUnits? (text : Text) : Option (Char × Text) := do
  let (first, rest) ← readUnit? text
  if isLowSurrogate first then none
  else if isHighSurrogate first then
    match rest with
    | '\\' :: 'u' :: rest =>
      let (second, rest) ← readUnit? rest
      if isLowSurrogate second then
        some (Char.ofNat (0x10000 + (first - 0xD800) * 0x400 + (second - 0xDC00)), rest)
      else none
    | _ => none
  else some (Char.ofNat first, rest)

/-- The character that a backslash and `c` write, apart from code points. -/
def unescape? (c : Char) : Option Char :=
  match c with
  | '"' | '\\' | '/' => some c
  | 'b' => some '\x08'
  | 'f' => some '\x0c'
  | 'n' => some '\n'
  | 'r' => some '\r'
  | 't' => some '\t'
  | _ => none

/-- A string from after its opening quote. Each step reads a character or an escape, so the length
of the text bounds their number. -/
def readString? : Nat → Text → Option (Text × Text)
  | 0, _ => none
  | _ + 1, [] => none
  | steps + 1, c :: rest =>
    if c = '"' then some ([], rest)
    else if c.toNat < 0x20 then none
    else if c = '\\' then
      match rest with
      | 'u' :: rest => do
        let (c, rest) ← readUnits? rest
        let (text, rest) ← readString? steps rest
        return (c :: text, rest)
      | escape :: rest => do
        let c ← unescape? escape
        let (text, rest) ← readString? steps rest
        return (c :: text, rest)
      | [] => none
    else do
      let (text, rest) ← readString? steps rest
      return (c :: text, rest)

def string? (text : Text) : Option (Text × Text) :=
  match text with
  | '"' :: rest => readString? (rest.length + 1) rest
  | _ => none

/-- Passes over a string from after its opening quote. Halves of pairs do no harm here. -/
def passString? : Nat → Text → Option Text
  | 0, _ => none
  | _ + 1, [] => none
  | steps + 1, c :: rest =>
    if c = '"' then some rest
    else if c.toNat < 0x20 then none
    else if c = '\\' then
      match rest with
      | 'u' :: rest => do
        let (_, rest) ← readUnit? rest
        passString? steps rest
      | escape :: rest => if (unescape? escape).isSome then passString? steps rest else none
      | [] => none
    else passString? steps rest

/-- Passes over at least one digit. -/
def passDigits? (text : Text) : Option Text :=
  if text.head?.any Char.isDigit then some (text.dropWhile Char.isDigit) else none

/-- Passes over the whole part of a number, which starts with no needless zero. -/
def passWhole? (text : Text) : Option Text :=
  match text with
  | '0' :: rest => if rest.head?.any Char.isDigit then none else some rest
  | _ => passDigits? text

def passFraction? (text : Text) : Option Text :=
  match text with
  | '.' :: rest => passDigits? rest
  | _ => some text

def passExponent? (text : Text) : Option Text :=
  match text with
  | e :: rest =>
    if e == 'e' || e == 'E' then
      match rest with
      | sign :: digits => passDigits? (if sign == '+' || sign == '-' then digits else rest)
      | [] => none
    else some text
  | [] => some []

def passNumber? (text : Text) : Option Text := do
  passExponent? (← passFraction? (← passWhole? (text.dropLead ['-'])))

/-- What a reader of nested values is in the middle of. -/
inductive Nesting where
  | array
  | object
  deriving Repr, DecidableEq

/-- Passes over a member's name and the colon after it. -/
def passName? (text : Text) : Option Text :=
  match skipSpace text with
  | '"' :: rest =>
    match (passString? (rest.length + 1) rest).map skipSpace with
    | some (':' :: rest) => some rest
    | _ => none
  | _ => none

/-- Goes on after a value: closes arrays and objects, or comes to the next value. What is left is
either nothing to close, with the text after it, or a text that starts with a value. -/
def passClosers? : List Nesting → Text → Option (List Nesting × Text)
  | [], text => some ([], text)
  | .array :: outer, text =>
    match skipSpace text with
    | ',' :: rest => some (.array :: outer, rest)
    | ']' :: rest => passClosers? outer rest
    | _ => none
  | .object :: outer, text =>
    match skipSpace text with
    | ',' :: rest => (passName? rest).map fun rest => (.object :: outer, rest)
    | '\x7d' :: rest => passClosers? outer rest
    | _ => none

/-- Passes over a value inside the arrays and objects given, and over all that closes them. -/
def passValue? : Nat → List Nesting → Text → Option Text
  | 0, _, _ => none
  | steps + 1, open_, text =>
    let next (rest : Text) : Option Text :=
      match passClosers? open_ rest with
      | some ([], rest) => some rest
      | some (open_, rest) => passValue? steps open_ rest
      | none => none
    match skipSpace text with
    | 'n' :: 'u' :: 'l' :: 'l' :: rest => next rest
    | 't' :: 'r' :: 'u' :: 'e' :: rest => next rest
    | 'f' :: 'a' :: 'l' :: 's' :: 'e' :: rest => next rest
    | '"' :: rest => do next (← passString? (rest.length + 1) rest)
    | '[' :: rest =>
      match skipSpace rest with
      | ']' :: rest => next rest
      | rest => passValue? steps (.array :: open_) rest
    | '\x7b' :: rest =>
      match skipSpace rest with
      | '\x7d' :: rest => next rest
      | rest => do passValue? steps (.object :: open_) (← passName? rest)
    | text => do next (← passNumber? text)

/-- The text after a value. Each step reads at least one character. -/
def pass? (text : Text) : Option Text := passValue? (text.length + 1) [] text

/-- The members `page` and `url` of an object as far as they have been read. -/
structure Members where
  page : Option Text := none
  resource : Option Text := none

/-- Reads members from a name on, up to the end of the object. -/
def readMembers? : Nat → Members → Text → Option (Members × Text)
  | 0, _, _ => none
  | steps + 1, members, text => do
    let (name, rest) ← string? (skipSpace text)
    let ':' :: rest := skipSpace rest | none
    let (members, rest) ←
      if name = "page".toList then
        if members.page.isSome then none
        else (string? (skipSpace rest)).map fun (page, rest) =>
          ({ members with page := some page }, rest)
      else if name = "url".toList then
        if members.resource.isSome then none
        else (string? (skipSpace rest)).map fun (resource, rest) =>
          ({ members with resource := some resource }, rest)
      else (pass? rest).map fun rest => (members, rest)
    match skipSpace rest with
    | ',' :: rest => readMembers? steps members rest
    | '\x7d' :: rest => some (members, rest)
    | _ => none

/-- An object that has both members, from after its opening brace. -/
def readObject? (text : Text) : Option (Probe × Text) := do
  let (members, rest) ← readMembers? (text.length + 1) {} text
  let page ← members.page
  let resource ← members.resource
  return (⟨page, resource⟩, rest)

/-- The two strings of an array that holds nothing else. -/
def readPair? (text : Text) : Option (Probe × Text) := do
  let (page, rest) ← string? (skipSpace text)
  let ',' :: rest := skipSpace rest | none
  let (resource, rest) ← string? (skipSpace rest)
  let ']' :: rest := skipSpace rest | none
  return (⟨page, resource⟩, rest)

/-- The request that a text writes: an object with the strings `page` and `url` once each, or an
array of the two. -/
def readProbe? (text : Text) : Option Probe :=
  match readEither? with
  | some (probe, rest) => if (skipSpace rest).isEmpty then some probe else none
  | none => none
where
  readEither? : Option (Probe × Text) :=
    match skipSpace text with
    | '\x7b' :: rest => readObject? rest
    | '[' :: rest => readPair? rest
    | _ => none

end FilterList.Json
