import FilterList.Rule.Placing

/-!
Exception rules: what the text after `@@` comes to.
-/

namespace FilterList.Rule

/-- An exception for third-party requests, to any page or to pages of some domains. -/
def thirdPartyException (pattern : Text) (domains : Option Text) :
    Except Rejection (List Placement) :=
  match domains with
  | none => placePattern .exceptionThirdParty pattern maxSegments
  | some domains =>
    let (table, pattern) := match ['|'].isPrefixOf? pattern with
      | some pattern => (Table.exceptionThirdPartyDomainInitial, pattern)
      | none => (.exceptionThirdPartyDomain, pattern)
    do placeForDomains table domains (.segments (← segmentsOf pattern maxSegments))

/-- An exception on pages of some domains. -/
def domainException (pattern domains : Text) : Except Rejection (List Placement) :=
  match ['|'].isPrefixOf? pattern, ['|'].isSuffixOf? pattern with
  | some pattern, _ => placeStartForDomains .exceptionDomainInitial domains pattern
  | none, some pattern => do
    placeForDomains .exceptionDomainFinal domains (.segments (← segmentsOf pattern maxSegments))
  | none, none =>
    if (domainItems domains).any isNegated then .error .negatedDomain
    else do placeForDomains .exceptionDomain domains (.segments (← segmentsOf pattern 4))

def exception (rule : Text) : Except Rejection (List Placement) :=
  let rule := rule.dropLead "||".toList
  match splitOptions rule with
  | (_, none) =>
    match ['|'].isSuffixOf? rule with
    | some pattern => placePattern .exceptionFinal pattern 2
    | none => placePattern .exception rule 3
  | (pattern, some options) =>
    let options := Options.ofText options
    if options.notThirdParty then .error .notThirdParty
    else if options.thirdParty then thirdPartyException pattern options.domains
    else match options.domains with
      | none => .error .unsupportedOptions
      | some domains => domainException pattern domains

end FilterList.Rule
