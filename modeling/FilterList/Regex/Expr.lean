import FilterList.Regex.CharClass

/-!
Regular expressions, and what it means for one to span a stretch of a text.
-/

namespace FilterList.Regex
open Unicode

/-- Which side of a word a position lies on. -/
inductive WordEdge where
  | either
  | neither
  | start
  | stop
  /-- No word character before. -/
  | startHalf
  /-- No word character after. -/
  | stopHalf
  deriving Repr, DecidableEq

/-- Conditions on a position that use up no character. -/
inductive Assertion where
  | textStart
  | textEnd
  | lineStart
  | lineEnd
  /-- As `lineStart`, where a carriage return, a line feed or both in this order end a line. -/
  | lineStartCrlf
  | lineEndCrlf
  | word (edge : WordEdge) (unicode : Bool)
  deriving Repr, DecidableEq

inductive Expr where
  | empty
  | chars (set : CharSet)
  | assertion (condition : Assertion)
  | seq (first second : Expr)
  | alt (left right : Expr)
  /-- At least `least` and, if given, at most `most` times. -/
  | loop (body : Expr) (least : Nat) (most : Option Nat)
  deriving Repr

def isWord (unicode : Bool) (c : Option Char) : Bool :=
  c.any (if unicode then CharClass.word else CharClass.asciiWord).contains

def WordEdge.holds (edge : WordEdge) (before after : Bool) : Bool :=
  match edge with
  | either => before != after
  | neither => before == after
  | start => !before && after
  | stop => before && !after
  | startHalf => !before
  | stopHalf => !after

/-- Whether the condition holds between the characters `before` and `after`, each `none` at an end
of the text. -/
def Assertion.holds (condition : Assertion) (before after : Option Char) : Bool :=
  match condition with
  | textStart => before.isNone
  | textEnd => after.isNone
  | lineStart => before.isNone || before == some '\n'
  | lineEnd => after.isNone || after == some '\n'
  | lineStartCrlf =>
    before.isNone || before == some '\n' || before == some '\r' && after != some '\n'
  | lineEndCrlf =>
    after.isNone || after == some '\r' || after == some '\n' && before != some '\r'
  | word edge unicode => edge.holds (isWord unicode before) (isWord unicode after)

/-- `Spans text expr i j`: the expression can match the characters from position `i` to `j`. -/
inductive Spans (text : Text) : Expr → Nat → Nat → Prop where
  | empty {i} (bound : i ≤ text.length) : Spans text .empty i i
  | chars {set c i} (here : text[i]? = some c) (member : set.contains c = true) :
      Spans text (.chars set) i (i + 1)
  | assertion {condition i} (bound : i ≤ text.length)
      (holds : condition.holds (if i = 0 then none else text[i - 1]?) text[i]? = true) :
      Spans text (.assertion condition) i i
  | seq {first second i j k} (left : Spans text first i j) (right : Spans text second j k) :
      Spans text (.seq first second) i k
  | left {left right i j} (spans : Spans text left i j) : Spans text (.alt left right) i j
  | right {left right i j} (spans : Spans text right i j) : Spans text (.alt left right) i j
  | done {body most i} (bound : i ≤ text.length) : Spans text (.loop body 0 most) i i
  | again {body least most i j k} (room : 0 < least ∨ most ≠ some 0) (once : Spans text body i j)
      (rest : Spans text (.loop body (least - 1) (most.map (· - 1))) j k) :
      Spans text (.loop body least most) i k

namespace Expr

/-- The expressions one after the other. -/
def sequence : List Expr → Expr
  | [] => empty
  | [expr] => expr
  | expr :: rest => expr.seq (sequence rest)

/-- Any of the expressions; there is at least the first. -/
def choice (first : Expr) : List Expr → Expr
  | [] => first
  | next :: rest => first.alt (choice next rest)

end Expr

end FilterList.Regex
