import FilterList.Text.Caseless
import FilterList.Unicode.CharSet

/-!
Sets of characters by name. The tables of the standard are kept as text, a range of code points per
word, so that they can be read beside its own files. Names are compared without case, blanks,
underscores, hyphens and a leading "is".
-/

namespace FilterList.Unicode

/-- The words of a text that blanks and line ends separate. -/
def words (text : String) : List Text :=
  (Text.pieces ' ' (text.toList.map fun c => if c = '\n' then ' ' else c)).filter (!·.isEmpty)

/-- Reads `first-last` or a single code point. -/
def readRange (word : Text) : Nat × Nat :=
  match word.pieces '-' with
  | [first, last] => (first.hexValue, last.hexValue)
  | _ => (word.hexValue, word.hexValue)

/-- Reads ranges of hexadecimal code points. -/
def CharSet.ofHex (text : String) : CharSet := ofRanges ((words text).map readRange)

/-- The form in which names are compared. The name "isc" does not lose its first two letters. -/
def looseName (name : Text) : Text :=
  let body := match name with
    | i :: s :: rest => if Text.lower [i, s] == ['i', 's'] then rest else name
    | _ => name
  let loose := Text.lower (body.filter fun c =>
    c.toNat < 0x80 && c != ' ' && c != '_' && c != '-')
  if loose == ['c'] && body.length < name.length then "isc".toList else loose

/-- Whether a name in loose form is one of those known. -/
def answersTo (name : Text) (known : List String) : Bool :=
  known.any fun other => looseName other.toList == name

/-- A set of characters with the names it goes by. -/
structure NamedSet where
  names : List String
  members : CharSet

namespace NamedSet

/-- The members of the sets that go by one of the names. -/
def gather (sets : List NamedSet) (names : List String) : CharSet :=
  .unions ((sets.filter fun set => set.names.any names.contains).map (·.members))

/-- The set that goes by a name in loose form. -/
def find? (sets : List NamedSet) (name : Text) : Option CharSet :=
  (sets.find? fun set => answersTo name set.names).map (·.members)

end NamedSet

end FilterList.Unicode
