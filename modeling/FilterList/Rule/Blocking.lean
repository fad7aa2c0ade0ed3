import FilterList.Rule.Placing

/-!
Blocking rules. Negated domains and other uses of the tilde make exceptions out of them, in whole
or in part.
-/

namespace FilterList.Rule

def isStar (c : Char) : Bool := c == '*'

/-- The text without the stars at its end. -/
def dropStars (pattern : Text) : Text := pattern.dropEndWhile isStar

/-- The domain that a tilde stands before, if it is not empty. -/
def exempt? (domain : Text) : Option Text :=
  match domain with
  | '~' :: exempt => if exempt.isEmpty then none else some exempt
  | _ => none

/-- A block of third-party requests on pages of some domains. A negated domain is exempt from a
block on all pages, which then stands beside those on the other domains. -/
def mixedThirdParty (pattern domains : Text) : Except Rejection (List Placement) := do
  let body := Body.segments (← segmentsOf pattern maxSegments)
  let limited := (domainItems domains).filterMap fun domain =>
    if isNegated domain then
      (exempt? domain).map fun exempt => Placement.mk .exceptionThirdPartyDomain ⟨some exempt, body⟩
    else some ⟨.blockThirdPartyDomain, some domain, body⟩
  let everywhere := if (domainItems domains).any fun domain => (exempt? domain).isSome then
    [Placement.mk .blockThirdParty ⟨none, body⟩] else []
  orNoUsableDomain (limited ++ everywhere)

/-- A block of third-party requests, on all pages or on pages of some domains. -/
def thirdPartyBlock (pattern : Text) (domains : Option Text) : Except Rejection (List Placement) :=
  match ['|'].isPrefixOf? pattern, domains with
  | some pattern, none => placePattern .blockThirdPartyInitial pattern maxSegments
  | some pattern, some domains => placeStartForDomains .blockThirdPartyDomainInitial domains pattern
  | none, none =>
    if pattern.contains '\\' then placeRegex .blockThirdPartyRegex pattern
    else placePattern .blockThirdParty (dropStars pattern) 4
  | none, some domains =>
    if pattern.contains '\\' then do
      placeForDomains .blockThirdPartyDomainRegex domains (.regex (← regexOf pattern))
    else mixedThirdParty pattern domains

/-- A block on pages of some domains. One negated domain turns them all into exceptions. -/
def domainBlock (pattern domains : Text) : Except Rejection (List Placement) :=
  if domains.contains '~' then do
    let body := Body.segments (← segmentsOf (dropStars pattern) 3)
    let exempt := (domainItems domains).map (·.dropWhile (· == '~'))
    orNoUsableDomain <| (exempt.filter (!·.isEmpty)).map fun domain =>
      ⟨.exceptionDomain, some domain, body⟩
  else if pattern.isEmpty then .error .emptyPattern
  else match ['|'].isPrefixOf? pattern, ['|'].isSuffixOf? pattern with
    | some pattern, _ => placeStartForDomains .blockDomainInitial domains pattern
    | none, some pattern => do
      placeForDomains .blockDomainFinal domains (.segments (← segmentsOf pattern maxSegments))
    | none, none =>
      if pattern.contains '\\' then do
        placeForDomains .blockDomainRegex domains (.regex (← regexOf pattern))
      else do placeForDomains .blockDomain domains (.segments (← segmentsOf pattern 3))

/-- A block on all pages, pinned by the bars at its ends. -/
def plainBlock (line pattern : Text) (finalLimit : Nat) : Except Rejection (List Placement) :=
  match ['|'].isPrefixOf? pattern, ['|'].isSuffixOf? pattern with
  | some pattern, _ => placePattern .blockInitial pattern maxSegments
  | none, some pattern =>
    if Text.occurs "$object".toList line then .error .objectRule
    else placePattern .blockFinal pattern finalLimit
  | none, none => placePattern .block pattern maxSegments

/-- A block that no option limits. With options, a tilde anywhere makes it an exception. An option
`file` alone is taken for a part of the address. -/
def unlimitedBlock (line rule pattern : Text) (options : Option Text) :
    Except Rejection (List Placement) :=
  if options.isSome && rule.contains '~' then
    placePattern .exception (dropStars pattern) maxSegments
  else if rule.contains '\\' then placeRegex .blockRegex pattern
  else match options with
    | none => plainBlock line ((rule.dropLead ['*']).dropTail ['*']) maxSegments
    | some options =>
      plainBlock line (dropStars (if options = "file".toList then rule else pattern)) 3

def blocking (line : Text) : Except Rejection (List Placement) :=
  let rule := line.dropLead "||".toList
  match ['|'].isSuffixOf? rule with
  | some pattern => placePattern .blockFinal (Text.dropLead pattern "||".toList) 2
  | none =>
    let (pattern, optionText) := splitOptions rule
    let options := (optionText.map Options.ofText).getD {}
    let limited := pattern.dropLead "||".toList
    if options.notThirdParty then .error .notThirdParty
    else if options.thirdParty then thirdPartyBlock limited options.domains
    else match options.domains with
      | some domains => domainBlock limited domains
      | none => unlimitedBlock line rule pattern optionText

end FilterList.Rule
