import FilterList.Emission.Basic
import FilterList.Rule.Blocking

/-!
Placing blocks, and the exceptions that negated domains and other uses of the tilde make of them.
-/

namespace FilterList.Emission
open Rule

/-- A block of third-party requests on pages of some domains. Entries are placed as the domains
come; if one of them was exempt, the block on all pages comes last. -/
def mixedThirdParty (pattern domains : Text) : Emission Nat := do
  let body := Body.segments (← MonadExcept.ofExcept (segmentsOf pattern maxSegments))
  let mut emitted := 0
  let mut exempts := false
  for domain in domainItems domains do
    if isNegated domain then
      if let some exempt := exempt? domain then
        exempts := true
        emitted := emitted + (← emit .exceptionThirdPartyDomain ⟨some exempt, body⟩)
    else
      emitted := emitted + (← emit .blockThirdPartyDomain ⟨some domain, body⟩)
  if exempts then
    emitted := emitted + (← emit .blockThirdParty ⟨none, body⟩)
  orNoUsableDomain emitted

/-- A block of third-party requests, on all pages or on pages of some domains. -/
def thirdPartyBlock (pattern : Text) (domains : Option Text) : Emission Nat :=
  match ['|'].isPrefixOf? pattern, domains with
  | some pattern, none => emitPattern .blockThirdPartyInitial pattern maxSegments
  | some pattern, some domains =>
    emitStartForDomains .blockThirdPartyDomainInitial domains pattern
  | none, none =>
    if pattern.contains '\\' then emitRegex .blockThirdPartyRegex pattern
    else emitPattern .blockThirdParty (dropStars pattern) 4
  | none, some domains =>
    if pattern.contains '\\' then
      emitRegexForDomains .blockThirdPartyDomainRegex domains (regexSource pattern)
    else mixedThirdParty pattern domains

/-- Exceptions for all the domains, negated or not. -/
def exemptDomains (pattern domains : Text) : Emission Nat := do
  let body := Body.segments (← MonadExcept.ofExcept (segmentsOf (dropStars pattern) 3))
  let mut emitted := 0
  for item in domainItems domains do
    let domain := item.dropWhile (· == '~')
    if !domain.isEmpty then
      emitted := emitted + (← emit .exceptionDomain ⟨some domain, body⟩)
  orNoUsableDomain emitted

/-- A block on pages of some domains. One negated domain turns them all into exceptions. -/
def domainBlock (pattern domains : Text) : Emission Nat :=
  if domains.contains '~' then exemptDomains pattern domains
  else if pattern.isEmpty then throw .emptyPattern
  else match ['|'].isPrefixOf? pattern, ['|'].isSuffixOf? pattern with
    | some pattern, _ => emitStartForDomains .blockDomainInitial domains pattern
    | none, some pattern => do
      let segments ← MonadExcept.ofExcept (segmentsOf pattern maxSegments)
      emitForDomains .blockDomainFinal domains segments
    | none, none =>
      if pattern.contains '\\' then
        emitRegexForDomains .blockDomainRegex domains (regexSource pattern)
      else do
        emitForDomains .blockDomain domains (← MonadExcept.ofExcept (segmentsOf pattern 3))

/-- A block on all pages, pinned by the bars at its ends. -/
def plainBlock (line pattern : Text) (finalLimit : Nat) : Emission Nat :=
  match ['|'].isPrefixOf? pattern, ['|'].isSuffixOf? pattern with
  | some pattern, _ => emitPattern .blockInitial pattern maxSegments
  | none, some pattern =>
    if Text.occurs "$object".toList line then throw .objectRule
    else emitPattern .blockFinal pattern finalLimit
  | none, none => emitPattern .block pattern maxSegments

/-- A block that no option limits. -/
def unlimitedBlock (line rule pattern : Text) (options : Option Text) : Emission Nat :=
  if options.isSome && rule.contains '~' then
    emitPattern .exception (dropStars pattern) maxSegments
  else if rule.contains '\\' then emitRegex .blockRegex pattern
  else match options with
    | none => plainBlock line ((rule.dropLead ['*']).dropTail ['*']) maxSegments
    | some options =>
      plainBlock line (dropStars (if options = "file".toList then rule else pattern)) 3

def blocking (line : Text) : Emission Nat :=
  let rule := line.dropLead "||".toList
  match ['|'].isSuffixOf? rule with
  | some pattern => emitPattern .blockFinal (Text.dropLead pattern "||".toList) 2
  | none =>
    let (pattern, optionText) := splitOptions rule
    let options := (optionText.map Options.ofText).getD {}
    let limited := pattern.dropLead "||".toList
    if options.notThirdParty then throw .notThirdParty
    else if options.thirdParty then thirdPartyBlock limited options.domains
    else match options.domains with
      | some domains => domainBlock limited domains
      | none => unlimitedBlock line rule pattern optionText

end FilterList.Emission
