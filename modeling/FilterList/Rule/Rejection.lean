/-!
Why a rule cannot be used.
-/

namespace FilterList.Rule

inductive Rejection where
  | notThirdParty
  | unsupportedOptions
  | negatedDomain
  | noUsableDomain
  | bareScheme
  | tooManySegments (limit : Nat)
  | emptyPattern
  | objectRule
  deriving Repr, DecidableEq

def Rejection.message : Rejection → String
  | notThirdParty => "~third-party is not supported"
  | unsupportedOptions => "filter options are neither domain= nor third-party"
  | negatedDomain => "negated domain in a domain whitelist"
  | noUsableDomain => "no usable domain in domain= list"
  | bareScheme => "pattern would match every URL of a scheme"
  | tooManySegments limit => "pattern has more than " ++ toString limit ++ " wildcard segments"
  | emptyPattern => "empty pattern"
  | objectRule => "end-anchored $object rule"

end FilterList.Rule
