import FilterList.Proofs.DecisionOrder

/-! Tables are sets as far as verdicts go. The first table that hits a request decides it, and whether
a table hits is a matter of what entries it has, however often and in whatever order it has them.
Only which of them is named for the verdict may depend on that. -/

namespace FilterList

namespace Decision

theorem placement?_ofHit? (hit : Option Hit) : (ofHit? hit).placement? = hit.map Hit.placement := by
  cases hit <;> rfl

def table? (decision : Decision) : Option Table := decision.placement?.map Placement.table

theorem isBlocked_eq_table? (decision : Decision) :
    decision.isBlocked = decision.table?.any fun table => !table.isException := by
  cases decision <;> rfl

end Decision

namespace RuleSet

/-- Both lists hit the same requests in every table. -/
def SameHits (rules others : RuleSet) : Prop :=
  ∀ request table, rules.Hits request table ↔ others.Hits request table

/-- Both lists have the same entries in every table, whatever their order and number. -/
def SameEntries (rules others : RuleSet) : Prop :=
  ∀ table entry, entry ∈ rules.table table ↔ entry ∈ others.table table

section Lists
variable (rules : RuleSet) (request : Request)

theorem hits_iff_placed (table : Table) :
    rules.Hits request table ↔
      ∃ placement ∈ rules.placements, placement.table = table ∧ placement.fires request = true := by
  rw [← rules.exists_hits_iff request (· = table), exists_eq_left]

instance : DecidablePred (rules.Hits request) := fun table =>
  inferInstanceAs (Decidable (request.admits table.scope = true ∧
    ∃ entry ∈ rules.table table, entry.fires table.anchor request = true))

theorem placement?_decide :
    (rules.decide request).placement? = rules.inOrder.find? (·.fires request) := by
  rw [RuleSet.decide, Decision.placement?_ofHit?, hit_evaluate, Option.map_map]
  exact Option.map_id'

/-- Of some tables that are tried in order, the first one that hits holds the first entry that fires. -/
theorem table_find?_placed (tables : List Table) :
    ((tables.flatMap rules.placed).find? (·.fires request)).map Placement.table =
      tables.find? (rules.Hits request ·) := by
  induction tables with
  | nil => rfl
  | cons table rest ih =>
    rw [List.flatMap_cons, List.find?_append, Option.map_or, ih, List.find?_cons]
    cases found : (rules.placed table).find? (·.fires request) with
    | some placement =>
      obtain ⟨entry, present, rfl⟩ := List.mem_map.mp (List.mem_of_find?_eq_some found)
      have firing := List.find?_some found
      obtain ⟨admitted, fires⟩ := Bool.and_eq_true_iff.mp firing
      have hits : rules.Hits request table := ⟨admitted, entry, present, fires⟩
      rw [decide_eq_true hits]
      rfl
    | none =>
      have misses : ¬ rules.Hits request table := by
        rintro ⟨admitted, entry, present, fires⟩
        apply List.find?_eq_none.mp found ⟨table, entry⟩ (List.mem_map_of_mem present)
        exact Bool.and_eq_true_iff.mpr ⟨admitted, fires⟩
      rw [decide_eq_false misses]
      rfl

theorem table?_decide :
    (rules.decide request).table? = Table.all.find? (rules.Hits request ·) := by
  rw [Decision.table?, placement?_decide, inOrder, table_find?_placed]

theorem fires_of_decided {placement : Placement}
    (decided : (rules.decide request).placement? = some placement) :
    placement.entry ∈ rules.table placement.table ∧ placement.fires request = true := by
  rw [placement?_decide] at decided
  have placed := (rules.mem_flatMap_placed.mp (List.mem_of_find?_eq_some decided)).2
  have fires := List.find?_some decided
  exact ⟨mem_table.mpr placed, fires⟩

end Lists

variable {rules others : RuleSet}

theorem sameEntries_iff_placements :
    rules.SameEntries others ↔
      ∀ placement, placement ∈ rules.placements ↔ placement ∈ others.placements := by
  simp only [SameEntries, mem_table]
  constructor
  · exact fun same placement => same placement.table placement.entry
  · exact fun same table entry => same ⟨table, entry⟩

theorem SameEntries.sameHits (same : rules.SameEntries others) : rules.SameHits others := by
  intro request table
  simp only [Hits, same table]

theorem SameHits.table?_decide (same : rules.SameHits others) (request : Request) :
    (rules.decide request).table? = (others.decide request).table? := by
  simp only [RuleSet.table?_decide, same request]

/-- Lists with the same entries in every table decide every request by the same table, so with the same
verdict, each by an entry of its own that stands there and fires. -/
theorem decide_sameEntries (same : rules.SameEntries others) (page resource : Text) :
    let request := Request.ofUrls page resource
    (rules.decide request).isBlocked = (others.decide request).isBlocked ∧
    (rules.decide request).table? = (others.decide request).table? ∧
    ∀ list ∈ [rules, others], ∀ placement, (list.decide request).placement? = some placement →
      placement.entry ∈ list.table placement.table ∧ placement.fires request = true := by
  intro request
  have table := same.sameHits.table?_decide request
  refine ⟨?_, table, fun list _ placement => list.fires_of_decided request⟩
  rw [Decision.isBlocked_eq_table?, Decision.isBlocked_eq_table?, table]

theorem decide_sameEntries_reordered :
    let ads : Entry := ⟨none, .segments (.single "/ads/".toList)⟩
    let pixel : Entry := ⟨none, .segments (.single "pixel".toList)⟩
    let script : Entry := ⟨none, .regex (.ofSource "\\.js".toList)⟩
    let empty : RuleSet := {}
    let rules := ((empty.push .block ads).push .block pixel).push .blockRegex script
    let others :=
      (((empty.push .blockRegex script).push .block pixel).push .block ads).push .block pixel
    let request := Request.ofUrls "https://a.test/".toList "https://b.test/ads/pixel".toList
    rules.SameEntries others ∧
    (others.decide request).isBlocked = true ∧ (others.decide request).table? = some .block ∧
    (rules.decide request).placement? = some ⟨.block, ads⟩ ∧
    (others.decide request).placement? = some ⟨.block, pixel⟩ := by
  intro ads pixel script empty rules others request
  have same : rules.SameEntries others := by
    have there : rules.placements ⊆ others.placements := by decide
    have back : others.placements ⊆ rules.placements := by decide
    exact sameEntries_iff_placements.mpr fun _ => ⟨@there _, @back _⟩
  obtain ⟨blocked, table, _⟩ := decide_sameEntries same "https://a.test/".toList
    "https://b.test/ads/pixel".toList
  have first : (rules.decide request).placement? = some ⟨.block, ads⟩ := by decide +kernel
  refine ⟨same, ?_, ?_, first, by decide +kernel⟩
  · rw [← blocked]
    decide +kernel
  · rw [← table, Decision.table?, first]
    rfl

end RuleSet

end FilterList
