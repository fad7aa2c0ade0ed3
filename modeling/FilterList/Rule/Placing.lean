import FilterList.Entry
import FilterList.Rule.Options
import FilterList.Rule.Rejection

/-!
How the parts of a rule become entries in tables. A rule is seen as a whole here: it comes to all its
placements, or to the reason why it is refused. The actions of `Emission` place them one by one.
-/

namespace FilterList.Rule

/-- The segments of a pattern, of which there may be up to `limit`. -/
def segmentsOf (pattern : Text) (limit : Nat) : Except Rejection Segments :=
  if pattern.all (· == '*') then .error .emptyPattern
  else match Segments.split? pattern limit with
    | some segments => .ok segments
    | none => .error (.tooManySegments limit)

def regexOf (pattern : Text) : Except Rejection UrlPattern :=
  let source := regexSource pattern
  if source.isEmpty then .error .emptyPattern else .ok (.ofSource source)

/-- One entry for all pages. -/
def placePattern (table : Table) (pattern : Text) (limit : Nat) :
    Except Rejection (List Placement) := do
  return [⟨table, none, .segments (← segmentsOf pattern limit)⟩]

def placeRegex (table : Table) (pattern : Text) : Except Rejection (List Placement) := do
  return [⟨table, none, .regex (← regexOf pattern)⟩]

def orNoUsableDomain (placements : List Placement) : Except Rejection (List Placement) :=
  if placements.isEmpty then .error .noUsableDomain else .ok placements

def isNegated (domain : Text) : Bool := domain.head? == some '~'

/-- One entry for each domain that is not negated. -/
def placeForDomains (table : Table) (domains : Text) (body : Body) :
    Except Rejection (List Placement) :=
  orNoUsableDomain <| ((domainItems domains).filter (!isNegated ·)).map fun domain =>
    ⟨table, some domain, body⟩

/-- Refuses patterns that pin nothing but a scheme. -/
def refuseBareScheme (pattern : Text) : Except Rejection Unit :=
  if ["http://", "https://", "http:", "https:"].any fun scheme => pattern == scheme.toList then
    .error .bareScheme
  else .ok ()

/-- Entries pinned to the start of URLs, on pages of the domains. -/
def placeStartForDomains (table : Table) (domains pattern : Text) :
    Except Rejection (List Placement) := do
  refuseBareScheme pattern
  placeForDomains table domains (.segments (← segmentsOf pattern maxSegments))

end FilterList.Rule
