import FilterList.Text.Basic

/-!
The literal segments of a wildcard pattern, and how they are looked for in a URL. Only the
pinned segment has a place; the others may occur anywhere and in any order.
-/

namespace FilterList

/-- The most literal segments that a pattern can have. -/
def maxSegments : Nat := 5

/-- From one to `maxSegments` literal segments. -/
structure Segments where
  toList : List Text
  ne_nil : toList ≠ []
  length_le : toList.length ≤ maxSegments
  deriving DecidableEq

namespace Segments

def ofList? (segments : List Text) : Option Segments :=
  if h : segments ≠ [] ∧ segments.length ≤ maxSegments then some ⟨segments, h.1, h.2⟩ else none

def single (segment : Text) : Segments := ⟨[segment], by simp, by simp [maxSegments]⟩

def size (segments : Segments) : Nat := segments.toList.length

def first (segments : Segments) : Text := segments.toList.head segments.ne_nil

def last (segments : Segments) : Text := segments.toList.getLast segments.ne_nil

/-- The pattern that the segments come from. -/
def toText (segments : Segments) : Text := Text.join ['*'] segments.toList

/-- The segments of a pattern between its stars, if there are at most `limit` of them and at most
`maxSegments`. -/
def split? (pattern : Text) (limit : Nat) : Option Segments :=
  let parts := pattern.pieces '*'
  if parts.length ≤ limit then ofList? parts else none

theorem ofList?_eq_some_iff {segments : List Text} {s : Segments} :
    ofList? segments = some s ↔ s.toList = segments := by
  unfold ofList?
  split
  · constructor
    · intro eq
      cases eq
      rfl
    · rintro rfl
      rfl
  · next bad =>
    constructor
    · intro eq
      cases eq
    · rintro rfl
      exact absurd ⟨s.ne_nil, s.length_le⟩ bad

end Segments

/-- Every segment occurs in the URL. -/
def occurIn (segments : List Text) (url : Text) : Bool := segments.all (Text.occurs · url)

/-- The URL starts with the first segment, and the others occur in it. -/
def occurFromStart (segments : List Text) (url : Text) : Bool :=
  match segments with
  | [] => false
  | first :: rest => first.isPrefixOf url && occurIn rest url

/-- The URL ends with the last segment, and the others occur in it. -/
def occurToEnd (segments : List Text) (url : Text) : Bool :=
  match segments.getLast? with
  | none => false
  | some last => last.isSuffixOf url && occurIn segments.dropLast url

theorem occurIn_iff {segments : List Text} {url : Text} :
    occurIn segments url = true ↔ ∀ segment ∈ segments, segment <:+: url := by
  simp [occurIn, Text.occurs_iff_isInfix]

theorem occurFromStart_iff {segments : List Text} (nonempty : segments ≠ []) {url : Text} :
    occurFromStart segments url = true ↔
      segments.head nonempty <+: url ∧ ∀ segment ∈ segments.tail, segment <:+: url := by
  cases segments with
  | nil => exact absurd rfl nonempty
  | cons first rest => simp [occurFromStart, occurIn_iff]

theorem occurToEnd_iff {segments : List Text} (nonempty : segments ≠ []) {url : Text} :
    occurToEnd segments url = true ↔
      segments.getLast nonempty <:+ url ∧ ∀ segment ∈ segments.dropLast, segment <:+: url := by
  simp [occurToEnd, List.getLast?_eq_some_getLast nonempty, occurIn_iff]

end FilterList
