import FilterList.Text.Basic

/-!
JSON values as the program writes them: members keep their order, and a value is written on one
line or spread over lines.
-/

namespace FilterList

inductive Json where
  | null
  | bool (value : Bool)
  /-- A number by its digits. -/
  | number (digits : String)
  | string (text : Text)
  | array (items : List Json)
  | object (members : List (String × Json))

namespace Json

def ofNat (n : Nat) : Json := number (toString n)

def ofText? : Option Text → Json
  | none => null
  | some text => string text

/-- A character inside a string. Quotes, backslashes and control characters are escaped. -/
def escape (c : Char) : Text :=
  match c with
  | '"' => ['\\', '"']
  | '\\' => ['\\', '\\']
  | '\x08' => ['\\', 'b']
  | '\x0c' => ['\\', 'f']
  | '\n' => ['\\', 'n']
  | '\r' => ['\\', 'r']
  | '\t' => ['\\', 't']
  | c =>
    if c.toNat < 0x20 then
      ['\\', 'u', '0', '0', Nat.digitChar (c.toNat / 16), Nat.digitChar (c.toNat % 16)]
    else [c]

def quote (text : Text) : Text := '"' :: text.flatMap escape ++ ['"']

mutual

/-- The value on one line, without blanks. -/
def compact : Json → Text
  | null => "null".toList
  | bool value => (toString value).toList
  | number digits => digits.toList
  | string text => quote text
  | array items => '[' :: compactItems items ++ [']']
  | object members => '\x7b' :: compactMembers members ++ ['\x7d']

def compactItems : List Json → Text
  | [] => []
  | [item] => item.compact
  | item :: next :: rest => item.compact ++ ',' :: compactItems (next :: rest)

def compactMembers : List (String × Json) → Text
  | [] => []
  | [(name, value)] => quote name.toList ++ ':' :: value.compact
  | (name, value) :: next :: rest =>
    quote name.toList ++ ':' :: value.compact ++ ',' :: compactMembers (next :: rest)

end

def newline (depth : Nat) : Text := '\n' :: List.replicate (2 * depth) ' '

mutual

/-- The value with each item and member on a line of its own, two blanks further in. -/
def spread (depth : Nat) : Json → Text
  | null => "null".toList
  | bool value => (toString value).toList
  | number digits => digits.toList
  | string text => quote text
  | array [] => ['[', ']']
  | array (item :: rest) =>
    '[' :: newline (depth + 1) ++ spreadItems (depth + 1) (item :: rest) ++ newline depth ++ [']']
  | object [] => ['\x7b', '\x7d']
  | object (member :: rest) =>
    '\x7b' :: newline (depth + 1) ++ spreadMembers (depth + 1) (member :: rest) ++ newline depth ++
      ['\x7d']

def spreadItems (depth : Nat) : List Json → Text
  | [] => []
  | [item] => item.spread depth
  | item :: next :: rest =>
    item.spread depth ++ ',' :: newline depth ++ spreadItems depth (next :: rest)

def spreadMembers (depth : Nat) : List (String × Json) → Text
  | [] => []
  | [(name, value)] => quote name.toList ++ ':' :: ' ' :: value.spread depth
  | (name, value) :: next :: rest =>
    quote name.toList ++ ':' :: ' ' :: value.spread depth ++ ',' :: newline depth ++
      spreadMembers depth (next :: rest)

end

end Json

end FilterList
