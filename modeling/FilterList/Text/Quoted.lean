import FilterList.Text.Basic
import FilterList.Unicode.Latest

/-!
Text in quotes for diagnosis. Everything that would not be seen for what it is, is written by its
code point.
-/

namespace FilterList.Text
open Unicode

/-- Whether a character shows by itself: a space, or a graphic character that neither merges with
the one before it nor may be passed over, as a filler may. -/
def isPlain (c : Char) : Bool :=
  c == ' ' ||
    (Latest.graphic.contains c && !Latest.combining.contains c && !defaultIgnorable.contains c)

def quoteChar (c : Char) : Text :=
  match c with
  | '\x00' => ['\\', '0']
  | '\t' => ['\\', 't']
  | '\r' => ['\\', 'r']
  | '\n' => ['\\', 'n']
  | '"' => ['\\', '"']
  | '\\' => ['\\', '\\']
  | c => if isPlain c then [c] else "\\u\x7b".toList ++ hexDigits c.toNat ++ ['\x7d']

def quoted (text : Text) : Text := '"' :: text.flatMap quoteChar ++ ['"']

end FilterList.Text
