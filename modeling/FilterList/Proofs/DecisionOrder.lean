import FilterList.Evaluation

/-! A decision is made by the first entry that fires, in the order of the tables and then of the
entries in each. Whether it blocks depends only on which entries stand in the tables: one of a
blocking table has to fire and none of an exception table may. -/

namespace FilterList

/-- Whether the entry matches the request in its table, and the table applies to the request. -/
def Placement.fires (placement : Placement) (request : Request) : Bool :=
  request.admits placement.table.scope && placement.entry.fires placement.table.anchor request

theorem Request.skipReason?_eq_none_iff {request : Request} {scope : Scope} :
    request.skipReason? scope = none ↔ request.admits scope = true := by
  unfold skipReason?
  cases request.admits scope with
  | true => simp
  | false => cases request.pageHost.isNone <;> simp

theorem Scan.hit_orElse (scan : Scan) (next : Unit → Scan) :
    (scan.orElse next).hit = scan.hit.or (next ()).hit := by
  unfold orElse
  cases found : scan.hit with
  | none => rfl
  | some hit => simp [found]

/-- Of a hit among exceptions and a hit among blocks, the exception decides. -/
theorem Decision.isBlocked_ofHit?_or {exception block : Option Hit}
    (excepts : ∀ hit, exception = some hit → hit.placement.table.isException = true)
    (blocks : ∀ hit, block = some hit → hit.placement.table.isException = false) :
    (ofHit? (exception.or block)).isBlocked = true ↔ block.isSome = true ∧ exception.isSome = false := by
  cases exception with
  | some hit => simp [ofHit?, isBlocked, excepts hit rfl]
  | none =>
    cases block with
    | some hit => simp [ofHit?, isBlocked, blocks hit rfl]
    | none => simp [ofHit?, isBlocked]

namespace RuleSet

def placed (rules : RuleSet) (table : Table) : List Placement :=
  (rules.table table).map (Placement.mk table)

/-- All entries in the order in which they are tried. -/
def inOrder (rules : RuleSet) : List Placement := Table.all.flatMap rules.placed

def Hits (rules : RuleSet) (request : Request) (table : Table) : Prop :=
  request.admits table.scope = true ∧
    ∃ entry ∈ rules.table table, entry.fires table.anchor request = true

def Excepts (rules : RuleSet) (request : Request) : Prop :=
  ∃ table, table.isException = true ∧ rules.Hits request table

def Blocks (rules : RuleSet) (request : Request) : Prop :=
  ∃ table, table.isException = false ∧ rules.Hits request table

variable (rules : RuleSet) (request : Request)

private theorem find?_skipped {table : Table} (skipped : request.admits table.scope = false) :
    (rules.placed table).find? (·.fires request) = none := by
  apply List.find?_eq_none.mpr
  intro placement member
  obtain ⟨entry, _, rfl⟩ := List.mem_map.mp member
  simp [Placement.fires, skipped]

private theorem find?_admitted {table : Table} (admitted : request.admits table.scope = true) :
    (rules.placed table).find? (·.fires request) =
      ((rules.table table).find? (·.fires table.anchor request)).map (Placement.mk table) := by
  have same : (fun placement : Placement => placement.fires request) ∘ Placement.mk table =
      fun entry => entry.fires table.anchor request := by
    funext entry
    simp [Placement.fires, admitted]
  rw [placed, List.find?_map, same]

/-- Trying some tables hits the first entry in them that fires. -/
theorem hit_scan (tables : List Table) :
    (rules.scan request tables).hit =
      ((tables.flatMap rules.placed).find? (·.fires request)).map (Hit.mk rules.label) := by
  induction tables with
  | nil => rfl
  | cons table rest ih =>
    rw [List.flatMap_cons, List.find?_append]
    cases reason : request.skipReason? table.scope with
    | some reason =>
      have skipped : request.admits table.scope = false := by
        rw [← Bool.not_eq_true, ← Request.skipReason?_eq_none_iff, reason]
        simp
      simpa [scan, reason, Scan.after, find?_skipped rules request skipped] using ih
    | none =>
      rw [find?_admitted rules request (Request.skipReason?_eq_none_iff.mp reason)]
      cases found : (rules.table table).find? (·.fires table.anchor request) with
      | some entry => simp [scan, reason, found]
      | none => simpa [scan, reason, found, Scan.after] using ih

theorem hit_evaluate :
    (rules.evaluate request).hit =
      (rules.inOrder.find? (·.fires request)).map (Hit.mk rules.label) := by
  rw [evaluate, Scan.hit_orElse, findException, findBlock, hit_scan, hit_scan, inOrder,
    Table.all_eq, List.flatMap_append, List.find?_append, Option.map_or]

theorem mem_flatMap_placed {tables : List Table} {placement : Placement} :
    placement ∈ tables.flatMap rules.placed ↔
      placement.table ∈ tables ∧ placement ∈ rules.placements := by
  constructor
  · intro member
    obtain ⟨table, tried, member⟩ := List.mem_flatMap.mp member
    obtain ⟨entry, present, rfl⟩ := List.mem_map.mp member
    exact ⟨tried, mem_table.mp present⟩
  · intro ⟨tried, member⟩
    exact List.mem_flatMap.mpr
      ⟨placement.table, tried, List.mem_map.mpr ⟨placement.entry, mem_table.mpr member, rfl⟩⟩

/-- Only which entries a list places counts for its hits, in whatever order. -/
theorem exists_hits_iff (kind : Table → Prop) :
    (∃ table, kind table ∧ rules.Hits request table) ↔
      ∃ placement ∈ rules.placements, kind placement.table ∧ placement.fires request = true := by
  constructor
  · intro ⟨table, of, admitted, entry, present, fires⟩
    exact ⟨⟨table, entry⟩, mem_table.mp present, of, Bool.and_eq_true_iff.mpr ⟨admitted, fires⟩⟩
  · intro ⟨placement, member, of, fires⟩
    obtain ⟨admitted, fires⟩ := Bool.and_eq_true_iff.mp fires
    exact ⟨placement.table, of, admitted, placement.entry, mem_table.mpr member, fires⟩

theorem excepts_iff :
    rules.Excepts request ↔ ∃ placement ∈ rules.placements,
      placement.table.isException = true ∧ placement.fires request = true :=
  rules.exists_hits_iff request (·.isException = true)

theorem blocks_iff :
    rules.Blocks request ↔ ∃ placement ∈ rules.placements,
      placement.table.isException = false ∧ placement.fires request = true :=
  rules.exists_hits_iff request (·.isException = false)

/-- A phase has a hit exactly where one of its tables does. -/
theorem isSome_hit_scan_iff (tables : List Table) :
    (rules.scan request tables).hit.isSome = true ↔ ∃ table ∈ tables, rules.Hits request table := by
  rw [hit_scan, Option.isSome_map, List.find?_isSome, rules.exists_hits_iff request (· ∈ tables)]
  constructor
  · intro ⟨placement, member, fires⟩
    obtain ⟨tried, member⟩ := rules.mem_flatMap_placed.mp member
    exact ⟨placement, member, tried, fires⟩
  · intro ⟨placement, member, tried, fires⟩
    exact ⟨placement, rules.mem_flatMap_placed.mpr ⟨tried, member⟩, fires⟩

theorem table_of_hit_scan {tables : List Table} {hit : Hit}
    (found : (rules.scan request tables).hit = some hit) : hit.placement.table ∈ tables := by
  rw [hit_scan] at found
  obtain ⟨placement, first, rfl⟩ := Option.map_eq_some_iff.mp found
  exact (rules.mem_flatMap_placed.mp (List.mem_of_find?_eq_some first)).1

theorem isSome_findException_iff :
    (rules.findException request).hit.isSome = true ↔ rules.Excepts request := by
  simp only [findException, isSome_hit_scan_iff, Table.mem_exceptions_iff, Excepts]

theorem isSome_findBlock_iff :
    (rules.findBlock request).hit.isSome = true ↔ rules.Blocks request := by
  simp only [findBlock, isSome_hit_scan_iff, Table.mem_blocks_iff, Blocks]

theorem isException_of_findException {hit : Hit}
    (found : (rules.findException request).hit = some hit) :
    hit.placement.table.isException = true :=
  Table.mem_exceptions_iff.mp (rules.table_of_hit_scan request found)

theorem isException_of_findBlock {hit : Hit}
    (found : (rules.findBlock request).hit = some hit) :
    hit.placement.table.isException = false :=
  Table.mem_blocks_iff.mp (rules.table_of_hit_scan request found)

theorem isBlocked_decide_iff :
    (rules.decide request).isBlocked = true ↔ rules.Blocks request ∧ ¬ rules.Excepts request := by
  rw [RuleSet.decide, evaluate, Scan.hit_orElse,
    Decision.isBlocked_ofHit?_or (fun _ => rules.isException_of_findException request)
      (fun _ => rules.isException_of_findBlock request),
    isSome_findBlock_iff, ← Bool.not_eq_true, isSome_findException_iff]

/-- The first entry in order that fires decides, and without one the request is let through. So a
request is blocked exactly where some blocking table hits it and no exception table does. -/
theorem decide_first (page resource : Text) :
    rules.decide (.ofUrls page resource) =
      (rules.inOrder.find? (·.fires (.ofUrls page resource))).elim .unmatched .decided ∧
    ((rules.decide (.ofUrls page resource)).isBlocked = true ↔
      (∃ table, table.isException = false ∧ rules.Hits (.ofUrls page resource) table) ∧
      ¬ ∃ table, table.isException = true ∧ rules.Hits (.ofUrls page resource) table) := by
  refine ⟨?_, rules.isBlocked_decide_iff _⟩
  rw [RuleSet.decide, hit_evaluate]
  cases rules.inOrder.find? (·.fires (.ofUrls page resource)) with
  | none => rfl
  | some placement => rfl

end RuleSet

end FilterList
