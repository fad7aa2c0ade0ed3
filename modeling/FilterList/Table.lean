import FilterList.Text.Caseless

/-!
The tables that compiled rules are placed in. A table says on which requests its entries are
tried, how their segments are pinned, and whether a match makes an exception or a block.
-/

namespace FilterList

/-- What a request has to be for a table to apply to it. -/
structure Scope where
  /-- The page has a known host. -/
  domain : Bool
  /-- The request goes to another host than the page's. -/
  thirdParty : Bool
  deriving Repr, DecidableEq

/-- Where in the URL a table's entries have to match. -/
inductive Anchor where
  | anywhere
  | start
  | stop
  /-- The whole URL, by a regular expression. -/
  | whole
  deriving Repr, DecidableEq

inductive Table where
  | exception
  | exceptionFinal
  | exceptionDomain
  | exceptionDomainInitial
  | exceptionDomainFinal
  | exceptionThirdParty
  | exceptionThirdPartyDomain
  | exceptionThirdPartyDomainInitial
  | block
  | blockInitial
  | blockFinal
  | blockDomain
  | blockDomainInitial
  | blockDomainFinal
  | blockDomainRegex
  | blockThirdParty
  | blockThirdPartyInitial
  | blockThirdPartyDomain
  | blockThirdPartyDomainInitial
  | blockThirdPartyRegex
  | blockThirdPartyDomainRegex
  | blockRegex
  deriving Repr, DecidableEq

namespace Table

/-- Exceptions are tried before blocks, and each kind in this order. -/
def exceptions : List Table :=
  [exception, exceptionFinal, exceptionDomain, exceptionDomainInitial, exceptionDomainFinal,
    exceptionThirdParty, exceptionThirdPartyDomain, exceptionThirdPartyDomainInitial]

def blocks : List Table :=
  [block, blockInitial, blockFinal, blockDomain, blockDomainInitial, blockDomainFinal,
    blockDomainRegex, blockThirdParty, blockThirdPartyInitial, blockThirdPartyDomain,
    blockThirdPartyDomainInitial, blockThirdPartyRegex, blockThirdPartyDomainRegex, blockRegex]

/-- The tables in the order they are tried. -/
def all : List Table :=
  [exception, exceptionFinal, exceptionDomain, exceptionDomainInitial, exceptionDomainFinal,
    exceptionThirdParty, exceptionThirdPartyDomain, exceptionThirdPartyDomainInitial, block,
    blockInitial, blockFinal, blockDomain, blockDomainInitial, blockDomainFinal, blockDomainRegex,
    blockThirdParty, blockThirdPartyInitial, blockThirdPartyDomain, blockThirdPartyDomainInitial,
    blockThirdPartyRegex, blockThirdPartyDomainRegex, blockRegex]

def isException : Table → Bool
  | exception | exceptionFinal | exceptionDomain | exceptionDomainInitial | exceptionDomainFinal
  | exceptionThirdParty | exceptionThirdPartyDomain | exceptionThirdPartyDomainInitial => true
  | _ => false

def anchor : Table → Anchor
  | exceptionFinal | exceptionDomainFinal | blockFinal | blockDomainFinal => .stop
  | exceptionDomainInitial | exceptionThirdPartyDomainInitial | blockInitial | blockDomainInitial
  | blockThirdPartyInitial | blockThirdPartyDomainInitial => .start
  | blockDomainRegex | blockThirdPartyRegex | blockThirdPartyDomainRegex | blockRegex => .whole
  | exception | exceptionDomain | exceptionThirdParty | exceptionThirdPartyDomain | block
  | blockDomain | blockThirdParty | blockThirdPartyDomain => .anywhere

def scope : Table → Scope
  | exceptionDomain | exceptionDomainInitial | exceptionDomainFinal | blockDomain
  | blockDomainInitial | blockDomainFinal | blockDomainRegex => ⟨true, false⟩
  | exceptionThirdParty | blockThirdParty | blockThirdPartyInitial | blockThirdPartyRegex =>
    ⟨false, true⟩
  | exceptionThirdPartyDomain | exceptionThirdPartyDomainInitial | blockThirdPartyDomain
  | blockThirdPartyDomainInitial | blockThirdPartyDomainRegex => ⟨true, true⟩
  | exception | exceptionFinal | block | blockInitial | blockFinal | blockRegex => ⟨false, false⟩

def name : Table → String
  | exception => "mainWhiteList"
  | exceptionFinal => "finalWhiteList"
  | exceptionDomain => "domainWhiteList"
  | exceptionDomainInitial => "domainInitialWhiteList"
  | exceptionDomainFinal => "domainFinalWhiteList"
  | exceptionThirdParty => "thirdPartyWhiteList"
  | exceptionThirdPartyDomain => "thirdPartyDomainWhiteList"
  | exceptionThirdPartyDomainInitial => "thirdPartyDomainInitialWhiteList"
  | block => "mainBlackList"
  | blockInitial => "initialBlackList"
  | blockFinal => "finalBlackList"
  | blockDomain => "domainBlackList"
  | blockDomainInitial => "domainInitialBlackList"
  | blockDomainFinal => "domainFinalBlackList"
  | blockDomainRegex => "domainRegularExpressionBlackList"
  | blockThirdParty => "thirdPartyBlackList"
  | blockThirdPartyInitial => "thirdPartyInitialBlackList"
  | blockThirdPartyDomain => "thirdPartyDomainBlackList"
  | blockThirdPartyDomainInitial => "thirdPartyDomainInitialBlackList"
  | blockThirdPartyRegex => "thirdPartyRegularExpressionBlackList"
  | blockThirdPartyDomainRegex => "thirdPartyDomainRegularExpressionBlackList"
  | blockRegex => "regularExpressionBlackList"

/-- The table with a name, whatever the case of its letters. -/
def ofName? (name : Text) : Option Table :=
  all.find? fun table => Text.caselessEq table.name.toList name

theorem all_eq : all = exceptions ++ blocks := rfl

theorem mem_all (table : Table) : table ∈ all := by cases table <;> decide

theorem mem_exceptions_iff {table : Table} : table ∈ exceptions ↔ table.isException = true := by
  cases table <;> decide

theorem mem_blocks_iff {table : Table} : table ∈ blocks ↔ table.isException = false := by
  cases table <;> decide

theorem nodup_all : all.Nodup := by decide

end Table

end FilterList
