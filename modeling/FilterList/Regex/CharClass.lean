import FilterList.Unicode.Derived

/-!
The classes of characters that an expression can ask for by a letter after a backslash, or in a
bracket by a name between colons.
-/

namespace FilterList.Regex.CharClass
open Unicode

def digit : CharSet := decimalNumber

def space : CharSet := whiteSpace

/-- Letters, marks, digits, connectors such as the underscore, and the two joiners. -/
def word : CharSet := .unions [alphabetic, mark, decimalNumber, category ["Pc"], joinControl]

def asciiDigit : CharSet := .range 0x30 0x39

def asciiSpace : CharSet := .ofRanges [(0x9, 0xD), (0x20, 0x20)]

def asciiWord : CharSet := .ofRanges [(0x30, 0x39), (0x41, 0x5A), (0x5F, 0x5F), (0x61, 0x7A)]

/-- The ASCII classes that go by names. -/
def named? (name : Text) : Option CharSet :=
  match String.ofList name with
  | "alnum" => some (.ofRanges [(0x30, 0x39), (0x41, 0x5A), (0x61, 0x7A)])
  | "alpha" => some (.ofRanges [(0x41, 0x5A), (0x61, 0x7A)])
  | "ascii" => some (.range 0 0x7F)
  | "blank" => some (.ofRanges [(0x9, 0x9), (0x20, 0x20)])
  | "cntrl" => some (.ofRanges [(0, 0x1F), (0x7F, 0x7F)])
  | "digit" => some asciiDigit
  | "graph" => some (.range 0x21 0x7E)
  | "lower" => some (.range 0x61 0x7A)
  | "print" => some (.range 0x20 0x7E)
  | "punct" => some (.ofRanges [(0x21, 0x2F), (0x3A, 0x40), (0x5B, 0x60), (0x7B, 0x7E)])
  | "space" => some asciiSpace
  | "upper" => some (.range 0x41 0x5A)
  | "word" => some asciiWord
  | "xdigit" => some (.ofRanges [(0x30, 0x39), (0x41, 0x46), (0x61, 0x66)])
  | _ => none

end FilterList.Regex.CharClass
