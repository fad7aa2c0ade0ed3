import FilterList.Text.Basic

/-!
Lines of a document. A line ends at a line feed, and a carriage return right before that line
feed belongs to the ending. Any other carriage return is part of its line.
-/

namespace FilterList.Text

/-- The text after the last line feed is a line only where it holds something. -/
def lastLine : Option Text → List Text
  | none | some [] => []
  | some line => [line]

def lines (text : Text) : List Text :=
  let parts := pieces '\n' text
  parts.dropLast.map (dropTail · ['\r']) ++ lastLine parts.getLast?

end FilterList.Text
