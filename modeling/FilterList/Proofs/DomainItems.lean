import FilterList.Proofs.CompilerRun
import FilterList.Proofs.LimitedLines
import FilterList.Proofs.PlacedEntries
import Mathlib.Data.List.Infix

/-! The items of a list of domains. A rule is made of these alone, so empty items and white space in the
list change nothing. Only a bar at the end of a block is none of the list's: it pins a pattern, of
which the list is a part. -/

namespace FilterList

namespace Rule

section SameItems
variable {domains others : Text} (same : domainItems domains = domainItems others)
include same

end SameItems

end Rule

namespace Line
variable {rule domains others : Text} {thirdParty : Bool}

section Lists
variable (plainRule : '$' ∉ rule ∧ '\\' ∉ rule)
  (plain : ',' ∉ domains ∧ '$' ∉ domains ∧ '\\' ∉ domains ∧ '^' ∉ domains)
include plainRule plain

end Lists

end Line

namespace Compilation

end Compilation

end FilterList
