import FilterList.Rule.Blocking
import FilterList.Rule.Exception

/-!
What a line of a filter list is.
-/

namespace FilterList.Line

/-- A value that a comment gives for the list's header. -/
inductive HeaderValue where
  | title (value : Text)
  | version (value : Text)
  deriving Repr, DecidableEq

inductive Outcome where
  | blank
  | comment (value : Option HeaderValue)
  /-- A header in brackets, or a rule that hides elements of pages. -/
  | cosmetic
  | dropped (reason : Rule.Rejection)
  | accepted (placements : List Placement)
  deriving DecidableEq

namespace Outcome

def ofRule : Except Rule.Rejection (List Placement) → Outcome
  | .ok placements => accepted placements
  | .error reason => dropped reason

def placements : Outcome → List Placement
  | accepted placements => placements
  | _ => []

end Outcome

/-- The part of a line that has a meaning: carets and the white space around it have none. -/
def content (line : Text) : Text := (Text.trim line).filter (· ≠ '^')

def isCosmetic (content : Text) : Bool :=
  content.head? == some '[' || Text.occurs "##".toList content ||
    Text.occurs "#@#".toList content || Text.occurs "#?#".toList content

def isComment (content : Text) : Bool :=
  content.head? == some '!' || content.head? == some '#'

def headerValue? (content : Text) : Option HeaderValue :=
  match "! Version:".toList.isPrefixOf? content with
  | some value => some (.version (Text.trim value))
  | none => ("! Title:".toList.isPrefixOf? content).map fun value => .title (Text.trim value)

def outcomeOf (content : Text) : Outcome :=
  if content.isEmpty then .blank
  else if isCosmetic content then .cosmetic
  else if isComment content then .comment (headerValue? content)
  else match "@@".toList.isPrefixOf? content with
    | some rule => .ofRule (Rule.exception rule)
    | none => .ofRule (Rule.blocking content)

def outcome (line : Text) : Outcome := outcomeOf (content line)

end FilterList.Line
