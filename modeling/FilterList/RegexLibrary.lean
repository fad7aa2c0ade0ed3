import FilterList.Text.Basic

/-!
Libraries of regular expressions, and patterns that are handed to one. A rule applies to whole URLs,
so its source is compiled between `^(?:` and `)$`. A source that the library refuses so is kept, and
such a pattern matches nothing.
-/

namespace FilterList

/-- A library as far as patterns use it. -/
structure RegexLibrary where
  Program : Type
  Fault : Type
  message : Fault → String
  compile : Text → Except Fault Program
  /-- Whether a program finds a match anywhere in a text. -/
  search : Program → Text → Bool

namespace RegexLibrary
variable {library : RegexLibrary}

/-- The text that is compiled for a source. -/
def anchored (source : Text) : Text := "^(?:".toList ++ source ++ ")$".toList

/-- A source and what the library made of it. -/
structure Pattern (library : RegexLibrary) where
  source : Text
  reading : Except library.Fault library.Program
  reading_eq : reading = library.compile (anchored source)

namespace Pattern

def ofSource (source : Text) : library.Pattern := ⟨source, library.compile (anchored source), rfl⟩

@[ext] theorem ext {left right : library.Pattern} (eq : left.source = right.source) :
    left = right := by
  obtain ⟨source, reading, reading_eq⟩ := left
  obtain ⟨_, _, reading_eq'⟩ := right
  subst eq
  subst reading_eq reading_eq'
  rfl

/-- Patterns with one source are one pattern. -/
instance : DecidableEq library.Pattern := fun left right =>
  decidable_of_iff (left.source = right.source) ⟨Pattern.ext, fun eq => eq ▸ rfl⟩

def fault? (pattern : library.Pattern) : Option library.Fault :=
  match pattern.reading with
  | .ok _ => none
  | .error fault => some fault

def isValid (pattern : library.Pattern) : Bool := pattern.fault?.isNone

def isMatch (pattern : library.Pattern) (url : Text) : Bool :=
  match pattern.reading with
  | .ok program => library.search program url
  | .error _ => false

end Pattern

/-- What a library documents: the expressions that texts write, where in a text they match, and the
bounds on their nesting and size. -/
structure Manual where
  Expr : Type
  parse : Text → Option Expr
  /-- Parsing comes upon a parenthesis that closes no group. -/
  Unopened : Text → Prop
  /-- The expression can match the characters from one position to another. -/
  Spans : Text → Expr → Nat → Nat → Prop
  Fits : Expr → Prop
  textStart : Expr
  textEnd : Expr
  group : Expr → Expr
  sequence : List Expr → Expr

/-- The expression that an anchored source is to write. -/
def Manual.wholly (manual : Manual) (expr : manual.Expr) : manual.Expr :=
  manual.sequence [manual.textStart, manual.group expr, manual.textEnd]

/-- The library does as documented. -/
structure Meets (library : RegexLibrary) (manual : Manual) : Prop where
  compiles_iff : ∀ text, (library.compile text).isOk = true ↔
    ∃ expr, manual.parse text = some expr ∧ manual.Fits expr
  /-- A search tries every position to start from. -/
  finds_iff : ∀ {text program expr}, library.compile text = .ok program →
    manual.parse text = some expr →
    ∀ url, library.search program url = true ↔ ∃ i j, manual.Spans url expr i j
  textStart_iff : ∀ {url i j}, manual.Spans url manual.textStart i j ↔ i = 0 ∧ j = 0
  textEnd_iff : ∀ {url i j},
    manual.Spans url manual.textEnd i j ↔ i = url.length ∧ j = url.length
  group_iff : ∀ {url expr i j},
    manual.Spans url (manual.group expr) i j ↔ manual.Spans url expr i j
  single_iff : ∀ {url expr i j},
    manual.Spans url (manual.sequence [expr]) i j ↔ manual.Spans url expr i j
  sequence_iff : ∀ {url first next rest i k},
    manual.Spans url (manual.sequence (first :: next :: rest)) i k ↔
      ∃ j, manual.Spans url first i j ∧ manual.Spans url (manual.sequence (next :: rest)) j k
  /-- Flags that a group sets end with it, so a source means in a group what it means by itself, and
  what is around the group is not changed. A comment may take in the rest of a text. -/
  parse_anchored : ∀ {source expr}, manual.parse source = some expr →
    manual.parse (anchored source) = some (manual.wholly expr) ∨
      '#' ∈ source ∧ manual.parse (anchored source) = none
  /-- What is wrong with a source is so in a group too, but for closing a group that is not open. -/
  parse_unwritten : ∀ {source}, manual.parse source = none → ¬ manual.Unopened source →
    manual.parse (anchored source) = none

end RegexLibrary

end FilterList
