import FilterList.LoadedList
import FilterList.Proofs.CompilerRun
import FilterList.Proofs.DistinctEntries
import FilterList.Proofs.PlacedEntries
import FilterList.Proofs.SubscriptionPhases

/-! What further lines and lists do to a verdict. A line marked as an exception takes no request
from those let through, and any other line without a tilde takes none from those blocked. What a
line excepts by itself is let through in whatever company the line stands. -/

namespace FilterList

namespace RuleSet
variable {fewer more : RuleSet}

theorem isBlocked_mono
    (blocks : ∀ placement ∈ fewer.placements, placement.table.isException = false →
      placement ∈ more.placements)
    (exceptions : ∀ placement ∈ more.placements, placement.table.isException = true →
      placement ∈ fewer.placements)
    {request : Request} (blocked : (fewer.decide request).isBlocked = true) :
    (more.decide request).isBlocked = true := by
  rw [isBlocked_decide_iff, blocks_iff, excepts_iff] at blocked ⊢
  obtain ⟨⟨placement, placed, isBlock, fires⟩, noException⟩ := blocked
  refine ⟨⟨placement, blocks placement placed isBlock, isBlock, fires⟩, ?_⟩
  intro ⟨exception, among, excepts, fires⟩
  exact noException ⟨exception, exceptions exception among excepts, excepts, fires⟩

end RuleSet

namespace Line

theorem not_isException_of_unmarked {line : Text} (unmarked : ¬ "@@".toList <+: content line)
    (noTilde : '~' ∉ content line) {placement : Placement}
    (placed : placement ∈ (outcome line).placements) : placement.table.isException = false := by
  obtain ⟨_, _, follows⟩ := follows_of_placed placed
  have read : isMarked line = false := by
    rw [← Bool.not_eq_true, isMarked, List.isPrefixOf_iff_prefix]
    exact unmarked
  rw [read] at follows
  obtain same | ⟨_, tilde⟩ := follows.polarity
  · exact same
  · exact absurd tilde noTilde

end Line

namespace Compilation

theorem mem_placements_insert {before after : List Text} {line : Text} {placement : Placement} :
    placement ∈ (ofLines (before ++ line :: after)).rules.placements ↔
      placement ∈ (ofLines (before ++ after)).rules.placements ∨
      placement ∈ (Line.outcome line).placements := by
  simp only [placements_ofLines, List.flatMap_append, List.flatMap_cons, List.mem_append]
  exact (or_congr_right or_comm).trans or_assoc.symm

/-- A line more, put anywhere: an exception makes no block out of a request let through, and a line
that is none and has no tilde leaves every block in force. -/
theorem isBlocked_insert (before after : List Text) (line page resource : Text) :
    ("@@".toList <+: Line.content line →
      ((ofLines (before ++ after)).rules.decide (.ofUrls page resource)).isBlocked = false →
      ((ofLines (before ++ line :: after)).rules.decide (.ofUrls page resource)).isBlocked = false) ∧
    (¬ "@@".toList <+: Line.content line → '~' ∉ Line.content line →
      ((ofLines (before ++ after)).rules.decide (.ofUrls page resource)).isBlocked = true →
      ((ofLines (before ++ line :: after)).rules.decide (.ofUrls page resource)).isBlocked = true) := by
  constructor
  · intro marked allowed
    rw [← Bool.not_eq_true] at allowed ⊢
    intro blocked
    -- Without the line the list has the same blocks and only fewer exceptions.
    refine allowed (RuleSet.isBlocked_mono ?_ ?_ blocked)
    · intro placement placed isBlock
      obtain kept | added := mem_placements_insert.mp placed
      · exact kept
      · rw [Line.isException_of_marked marked added] at isBlock
        cases isBlock
    · intro placement placed _
      exact mem_placements_insert.mpr (.inl placed)
  · intro unmarked noTilde
    -- With the line the list has more blocks and the same exceptions.
    apply RuleSet.isBlocked_mono
    · intro placement placed _
      exact mem_placements_insert.mpr (.inl placed)
    · intro placement placed excepts
      obtain kept | added := mem_placements_insert.mp placed
      · exact kept
      · rw [Line.not_isException_of_unmarked unmarked noTilde added] at excepts
        cases excepts

theorem isBlocked_insert_between :
    let block := "/ads/".toList
    let exception := " @@||b.test^/ads/ok".toList
    let page := "https://a.test/".toList
    let spared := "https://b.test/ads/free.js".toList
    let resource := "https://b.test/ads/x.js".toList
    ("@@".toList <+: Line.content exception ∧
      ((ofLines ([block] ++ exception :: ["@@free".toList])).rules.decide
        (.ofUrls page spared)).isBlocked = false) ∧
    (¬ "@@".toList <+: Line.content "ads*.js$third-party".toList ∧
      '~' ∉ Line.content "ads*.js$third-party".toList ∧
      ((ofLines ([block] ++ "ads*.js$third-party".toList :: [exception])).rules.decide
        (.ofUrls page resource)).isBlocked = true) := by
  intro block exception page spared resource
  have marked : "@@".toList <+: Line.content exception := by decide
  have unmarked : ¬ "@@".toList <+: Line.content "ads*.js$third-party".toList := by decide
  have noTilde : '~' ∉ Line.content "ads*.js$third-party".toList := by decide
  refine ⟨⟨marked, ?_⟩, unmarked, noTilde, ?_⟩
  · exact (isBlocked_insert [block] ["@@free".toList] exception page spared).1 marked
      (by decide +kernel)
  · exact (isBlocked_insert [block] [exception] "ads*.js$third-party".toList page resource).2
      unmarked noTilde (by decide +kernel)

/-- The list of some lines as it may be put in force: as compiled, freed of repeated entries, or
with a title. -/
inductive Prepared (lines : List Text) : RuleSet → Prop where
  | compiled : Prepared lines (ofLines lines).rules
  | reduced {rules} (prepared : Prepared lines rules) : Prepared lines rules.distinct
  | titled {rules} (prepared : Prepared lines rules) (title : Text) :
      Prepared lines (rules.orTitled title)

theorem Prepared.mem_placements {lines : List Text} {rules : RuleSet}
    (prepared : Prepared lines rules) {placement : Placement} :
    placement ∈ rules.placements ↔ placement ∈ (ofLines lines).rules.placements := by
  induction prepared with
  | compiled => exact Iff.rfl
  | reduced _ ih => exact List.mem_eraseDups.trans ih
  | titled _ _ ih => exact ih

end Compilation

namespace Subscriptions
open Compilation

theorem decided_of_excepts {lists : List RuleSet} {rules : RuleSet} (listed : rules ∈ lists)
    {request : Request} (excepts : rules.Excepts request) :
    ∃ placement, (decide ⟨lists⟩ request).decision = .decided placement ∧
      placement.table.isException = true := by
  have some : (lists.findSome? fun rules => (rules.findException request).hit).isSome = true :=
    List.findSome?_isSome_iff.mpr
      ⟨rules, listed, (rules.isSome_findException_iff request).mpr excepts⟩
  obtain ⟨hit, first⟩ := Option.isSome_iff_exists.mp some
  obtain ⟨list, _, found⟩ := List.exists_of_findSome?_eq_some first
  refine ⟨hit.placement, ?_, list.isException_of_findException request found⟩
  change Decision.ofHit? (evaluate ⟨lists⟩ request).hit = _
  rw [hit_evaluate, first]
  rfl

/-- A request that a line excepts by itself, be it marked or not, is let through for an exception
wherever a list with that line is in force: whatever other lines the list has, whatever other lists
there are, and whether it was freed of repeated entries. -/
theorem exception_stands {line page resource : Text}
    (excepted : ((ofLines [line]).rules.findException (.ofUrls page resource)).hit.isSome = true)
    {lines : List Text} (among : line ∈ lines) {rules : RuleSet} (prepared : Prepared lines rules)
    {subscriptions : Subscriptions} (listed : rules ∈ subscriptions.lists) :
    (subscriptions.decide (.ofUrls page resource)).decision.isBlocked = false ∧
    ∃ placement, (subscriptions.decide (.ofUrls page resource)).decision = .decided placement ∧
      placement.table.isException = true := by
  rw [RuleSet.isSome_findException_iff, RuleSet.excepts_iff, rules_ofLine] at excepted
  obtain ⟨placement, placed, isException, fires⟩ := excepted
  have compiled : placement ∈ (ofLines lines).rules.placements := by
    rw [placements_ofLines]
    exact List.mem_flatMap.mpr ⟨line, among, placed⟩
  have excepts : rules.Excepts (.ofUrls page resource) :=
    (rules.excepts_iff _).mpr ⟨placement, prepared.mem_placements.mpr compiled, isException, fires⟩
  obtain ⟨deciding, decided, byException⟩ := decided_of_excepts listed excepts
  refine ⟨?_, deciding, decided, byException⟩
  rw [decided, Decision.isBlocked, byException]
  rfl

theorem exception_stands_among_blocks :
    let line := "@@||b.test/ads/ok^".toList
    let lines := ["/ads/$third-party".toList, line, "/ok".toList, line]
    let page := "https://a.test/".toList
    let resource := "https://b.test/ads/ok.js".toList
    let subscriptions : Subscriptions :=
      ⟨[(ofLines ["||b.test^".toList]).rules, (ofLines lines).rules.distinct]⟩
    ((ofLines [line]).rules.findException (.ofUrls page resource)).hit.isSome = true ∧
    line ∈ lines ∧ Prepared lines (ofLines lines).rules.distinct ∧
    (subscriptions.decide (.ofUrls page resource)).decision.isBlocked = false := by
  intro line lines page resource subscriptions
  have excepted :
      ((ofLines [line]).rules.findException (.ofUrls page resource)).hit.isSome = true := by
    decide +kernel
  have among : line ∈ lines := by simp [lines]
  have prepared : Prepared lines (ofLines lines).rules.distinct := .reduced .compiled
  have listed : (ofLines lines).rules.distinct ∈ subscriptions.lists := by simp [subscriptions]
  exact ⟨excepted, among, prepared, (exception_stands excepted among prepared listed).1⟩

end Subscriptions

end FilterList
