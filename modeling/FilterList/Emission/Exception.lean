import FilterList.Emission.Basic
import FilterList.Rule.Exception

/-!
Placing exceptions: the actions for the text after `@@`.
-/

namespace FilterList.Emission
open Rule

/-- An exception for third-party requests, to any page or to pages of some domains. -/
def thirdPartyException (pattern : Text) (domains : Option Text) : Emission Nat :=
  match domains with
  | none => emitPattern .exceptionThirdParty pattern maxSegments
  | some domains => do
    let (table, pattern) := match ['|'].isPrefixOf? pattern with
      | some pattern => (Table.exceptionThirdPartyDomainInitial, pattern)
      | none => (.exceptionThirdPartyDomain, pattern)
    emitForDomains table domains (← MonadExcept.ofExcept (segmentsOf pattern maxSegments))

/-- An exception on pages of some domains. -/
def domainException (pattern domains : Text) : Emission Nat :=
  match ['|'].isPrefixOf? pattern, ['|'].isSuffixOf? pattern with
  | some pattern, _ => emitStartForDomains .exceptionDomainInitial domains pattern
  | none, some pattern => do
    let segments ← MonadExcept.ofExcept (segmentsOf pattern maxSegments)
    emitForDomains .exceptionDomainFinal domains segments
  | none, none =>
    if (domainItems domains).any isNegated then throw .negatedDomain
    else do emitForDomains .exceptionDomain domains (← MonadExcept.ofExcept (segmentsOf pattern 4))

def exception (rule : Text) : Emission Nat :=
  let rule := rule.dropLead "||".toList
  match splitOptions rule with
  | (_, none) =>
    match ['|'].isSuffixOf? rule with
    | some pattern => emitPattern .exceptionFinal pattern 2
    | none => emitPattern .exception rule 3
  | (pattern, some options) =>
    let options := Options.ofText options
    if options.notThirdParty then throw .notThirdParty
    else if options.thirdParty then thirdPartyException pattern options.domains
    else match options.domains with
      | none => throw .unsupportedOptions
      | some domains => domainException pattern domains

end FilterList.Emission
