import FilterList.Segments
import FilterList.Table
import FilterList.UrlPattern

/-!
Entries of rule tables: what a URL has to match, and the page domain an entry is limited to.
-/

namespace FilterList

inductive Body where
  | segments (parts : Segments)
  | regex (pattern : UrlPattern)
  deriving DecidableEq

structure Entry where
  domain : Option Text
  body : Body
  deriving DecidableEq

namespace Body

def render : Body → String
  | segments parts => String.ofList parts.toText
  | regex pattern => "/" ++ String.ofList pattern.source ++ "/"

def isRegex : Body → Bool
  | segments _ => false
  | regex _ => true

end Body

namespace Entry

def segments? (entry : Entry) : Option Segments :=
  match entry.body with
  | .segments parts => some parts
  | .regex _ => none

def isRegex (entry : Entry) : Bool := entry.body.isRegex

/-- The source of a pattern that could not be read and so never matches. -/
def brokenSource? (entry : Entry) : Option Text :=
  match entry.body with
  | .segments _ => none
  | .regex pattern => if pattern.isValid then none else some pattern.source

def render (entry : Entry) : String :=
  match entry.domain with
  | none => entry.body.render
  | some domain => String.ofList domain ++ ": " ++ entry.body.render

end Entry

/-- An entry and the table it stands in. -/
structure Placement where
  table : Table
  entry : Entry
  deriving DecidableEq

end FilterList
