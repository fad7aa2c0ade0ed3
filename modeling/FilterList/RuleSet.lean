import FilterList.Entry

/-!
The compiled form of a filter list. Its entries are kept in the order they were placed in; a
table is what was placed in it, in that order.
-/

namespace FilterList

/-- What a list says of itself in its comments. -/
structure Header where
  title : Option Text := none
  version : Option Text := none
  deriving Repr, DecidableEq

structure RuleSet where
  header : Header := {}
  placements : List Placement := []
  deriving DecidableEq

namespace RuleSet

def table (rules : RuleSet) (table : Table) : List Entry :=
  rules.placements.filterMap fun placement =>
    if placement.table = table then some placement.entry else none

def push (rules : RuleSet) (table : Table) (entry : Entry) : RuleSet :=
  { rules with placements := rules.placements ++ [⟨table, entry⟩] }

def size (rules : RuleSet) : Nat := rules.placements.length

def counts (rules : RuleSet) : List (Table × Nat) :=
  Table.all.map fun table => (table, (rules.table table).length)

/-- The name that verdicts and reports give the list. -/
def label (rules : RuleSet) : Text := rules.header.title.getD "unnamed list".toList

theorem mem_table {rules : RuleSet} {target : Table} {entry : Entry} :
    entry ∈ rules.table target ↔ ⟨target, entry⟩ ∈ rules.placements := by
  constructor
  · intro member
    obtain ⟨placement, placed, same⟩ := List.mem_filterMap.mp member
    split at same
    next here =>
      cases same
      cases here
      exact placed
    next => cases same
  · intro placed
    exact List.mem_filterMap.mpr ⟨_, placed, if_pos rfl⟩

@[simp] theorem size_push (rules : RuleSet) (table : Table) (entry : Entry) :
    (rules.push table entry).size = rules.size + 1 := by
  simp [size, push]

end RuleSet

end FilterList
