import FilterList.Regex.Expr

/-!
Matching by sets of positions. An expression takes the set of positions where a match may start to
the set of those where it may end, so nothing is tried twice. What any number of turns of a loop
leads to is worked out beforehand from the last position to the first, so that loops inside loops
take no longer than others. A set is the number whose bits are its members.
-/

namespace FilterList.Regex
open Unicode

/-- An expression laid over one text, as seen from one of its positions: each character set and
each assertion has become the set of positions where it holds, counted from there. -/
inductive Overlay where
  | empty
  | step (positions : Nat)
  | test (positions : Nat)
  | seq (first second : Overlay)
  | alt (left right : Overlay)
  /-- At least `least` turns and up to `more` after them. -/
  | turns (body : Overlay) (least more : Nat)
  /-- One turn or more. For each position from here on there is the set of those that they lead to,
  counted from it. -/
  | again (rows : List Nat)

/-- The positions whose following character is in the set. -/
def stepPositions (set : CharSet) : Text → Nat
  | [] => 0
  | c :: rest => (set.contains c).toNat + 2 * stepPositions set rest

/-- The positions where the condition holds, given the character before the first. -/
def testPositions (condition : Assertion) (before : Option Char) : Text → Nat
  | [] => (condition.holds before none).toNat
  | c :: rest => (condition.holds before (some c)).toNat + 2 * testPositions condition (some c) rest

/-- Applies `next` exactly `count` times. It stops at a set that `next` leaves as it is, and comes
to one at the latest when there are more steps than positions to stand on. -/
def iterate (next : Nat → Nat) : Nat → Nat → Nat
  | 0, positions => positions
  | count + 1, positions =>
    let reached := next positions
    if reached = positions then positions else iterate next count reached

/-- The members of the first set that the second lacks. -/
def without (positions others : Nat) : Nat := positions ^^^ (positions &&& others)

/-- All positions reached from `latest` in at most `steps` steps, and those `seen` before. Only the
positions that a step reaches for the first time are stepped from again. -/
def spread (next : Nat → Nat) : Nat → Nat → Nat → Nat
  | 0, seen, _ => seen
  | steps + 1, seen, latest =>
    let fresh := without (next latest) seen
    if fresh = 0 then seen else spread next steps (seen ||| fresh) fresh

/-- What the rows of the starts lead to. A start to which an earlier one leads is passed over,
because all that it leads to is in that row already. -/
def reach : List Nat → Nat → Nat
  | [], _ => 0
  | row :: rows, starts =>
    if starts = 0 then 0
    else if starts % 2 = 1 then row ||| 2 * reach rows (without (starts / 2) (row / 2))
    else 2 * reach rows (starts / 2)

namespace Overlay

/-- The overlay as seen from the next position. -/
def advance : Overlay → Overlay
  | empty => empty
  | step positions => step (positions / 2)
  | test positions => test (positions / 2)
  | seq first second => seq first.advance second.advance
  | alt left right => alt left.advance right.advance
  | turns body least more => turns body.advance least more
  | again rows => again rows.tail

/-- Where matches that start at `starts` may end. -/
def ends : Overlay → Nat → Nat
  | empty, starts => starts
  | step positions, starts => 2 * (starts &&& positions)
  | test positions, starts => starts &&& positions
  | seq first second, starts => second.ends (first.ends starts)
  | alt left right, starts => left.ends starts ||| right.ends starts
  | turns body least more, starts =>
    let begun := iterate body.ends least starts
    spread body.ends more begun begun
  | again rows, starts => reach rows starts

/-- For each of the next `count` positions what one turn or more leads to. A turn never leads back,
so after the first the rows of later positions tell. -/
def closure : Nat → Overlay → List Nat
  | 0, _ => []
  | count + 1, body =>
    let rows := closure count body.advance
    let once := body.ends 1
    (once ||| 2 * reach rows (once / 2)) :: rows

end Overlay

def Expr.over (text : Text) : Expr → Overlay
  | empty => .empty
  | chars set => .step (stepPositions set text)
  | assertion condition => .test (testPositions condition none text)
  | seq first second => .seq (first.over text) (second.over text)
  | alt left right => .alt (left.over text) (right.over text)
  | loop body least (some most) => .turns (body.over text) least (most - least)
  | loop body least none =>
    let inner := body.over text
    let more := Overlay.again (Overlay.closure (text.length + 1) inner)
    match least with
    | 0 => .alt .empty more
    | 1 => more
    | least + 2 => .seq (.turns inner (least + 1) 0) more

/-- Every position of a text of `length` characters, the end included. -/
def allPositions (length : Nat) : Nat := (1 <<< (length + 1)) - 1

/-- Whether the expression matches anywhere in the text. -/
def Expr.occursIn (expr : Expr) (text : Text) : Bool :=
  (expr.over text).ends (allPositions text.length) != 0

end FilterList.Regex
