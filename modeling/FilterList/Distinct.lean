import FilterList.RuleSet

/-!
Repeated entries of a table change no verdict, so a list can do with the first of each.
-/

namespace FilterList

/-- How many entries there were, and how many are left. -/
structure Reduction where
  before : Nat
  after : Nat
  deriving Repr, DecidableEq

def Reduction.removed (reduction : Reduction) : Nat := reduction.before - reduction.after

namespace RuleSet

/-- The list with the first of each entry of a table. -/
def distinct (rules : RuleSet) : RuleSet := { rules with placements := rules.placements.eraseDups }

def reduction (rules : RuleSet) : Reduction := ⟨rules.size, rules.distinct.size⟩

end RuleSet

end FilterList
