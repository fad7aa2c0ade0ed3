import FilterList.LogRecord
import FilterList.Rule.Placing

/-!
Placing the entries of a rule. They are placed one by one, so what stands in a table by the time a
rule is refused stays there; each action tells how many entries it has placed.
-/

namespace FilterList

/-- How many lines of each kind a list has, and how many entries they place. -/
structure Tally where
  lines : Nat := 0
  blank : Nat := 0
  comments : Nat := 0
  cosmetic : Nat := 0
  dropped : Nat := 0
  accepted : Nat := 0
  entries : Nat := 0
  deriving Repr, DecidableEq

/-- What has come of the lines read so far. Placements and records stand latest first. -/
structure Compiler where
  header : Header := {}
  placed : List Placement := []
  tally : Tally := {}
  records : List LogRecord := []

/-- A part of reading a rule. -/
abbrev Emission := ExceptT Rule.Rejection (StateM Compiler)

namespace Emission
open Rule

/-- Reads the source of a regular expression. One that cannot be read is recorded. -/
def readPattern (source : Text) : Emission UrlPattern := do
  let pattern := UrlPattern.ofSource source
  if !pattern.isValid then
    modify fun compiler => { compiler with records := .invalidPattern source :: compiler.records }
  return pattern

/-- Places one entry. -/
def emit (table : Table) (entry : Entry) : Emission Nat := do
  modify fun compiler => { compiler with placed := ⟨table, entry⟩ :: compiler.placed }
  return 1

/-- Reads an expression and places it. -/
def emitSource (table : Table) (domain : Option Text) (source : Text) : Emission Nat := do
  emit table ⟨domain, .regex (← readPattern source)⟩

def orNoUsableDomain (emitted : Nat) : Emission Nat :=
  if emitted = 0 then throw .noUsableDomain else return emitted

def emitPattern (table : Table) (pattern : Text) (limit : Nat) : Emission Nat := do
  let segments ← MonadExcept.ofExcept (segmentsOf pattern limit)
  emit table ⟨none, .segments segments⟩

def emitRegex (table : Table) (pattern : Text) : Emission Nat :=
  let source := regexSource pattern
  if source.isEmpty then throw .emptyPattern
  else emitSource table none source

/-- One entry for each domain that is not negated. -/
def emitForDomains (table : Table) (domains : Text) (segments : Segments) : Emission Nat := do
  let mut emitted := 0
  for domain in domainItems domains do
    if !isNegated domain then
      emitted := emitted + (← emit table ⟨some domain, .segments segments⟩)
  orNoUsableDomain emitted

/-- One entry for each domain that is not negated, each with the expression read anew. -/
def emitRegexForDomains (table : Table) (domains source : Text) : Emission Nat :=
  if source.isEmpty then throw .emptyPattern
  else do
    let mut emitted := 0
    for domain in domainItems domains do
      if !isNegated domain then
        emitted := emitted + (← emitSource table (some domain) source)
    orNoUsableDomain emitted

/-- Entries pinned to the start of URLs, on pages of the domains. -/
def emitStartForDomains (table : Table) (domains pattern : Text) : Emission Nat := do
  MonadExcept.ofExcept (refuseBareScheme pattern)
  emitForDomains table domains (← MonadExcept.ofExcept (segmentsOf pattern maxSegments))

end Emission

end FilterList
