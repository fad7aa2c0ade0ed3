import FilterList.Proofs.DecisionOrder
import FilterList.Subscriptions

/-! Lists in force together are asked for exceptions one after the other, and only then for blocks.
The first list with an answer gives the verdict. Whether it blocks is what all lists put together
into one would say, although there another entry may be the first. -/

namespace FilterList

namespace RuleSet

def merged (lists : List RuleSet) : RuleSet := { placements := lists.flatMap (·.placements) }

theorem table_merged (lists : List RuleSet) (table : Table) :
    (merged lists).table table = lists.flatMap (·.table table) :=
  List.filterMap_flatMap ..

/-- What the list answers in one phase, under its own label, if that phase has a hit. -/
def answer? (rules : RuleSet) (find : RuleSet → Scan) : Option Verdict :=
  (find rules).hit.map fun hit => ⟨.decided hit.placement, some rules.label⟩

theorem answer?_scan (rules : RuleSet) (request : Request) (tables : List Table) :
    rules.answer? (·.scan request tables) =
      (rules.scan request tables).hit.map fun hit => ⟨.decided hit.placement, some hit.list⟩ := by
  unfold answer?
  rw [hit_scan, Option.map_map, Option.map_map]
  rfl

end RuleSet

namespace Subscriptions

theorem hit_phase (find : RuleSet → Scan) (lists : List RuleSet) :
    (phase find lists).hit = lists.findSome? fun rules => (find rules).hit := by
  induction lists with
  | nil => rfl
  | cons rules rest ih =>
    rw [phase, Scan.hit_orElse, List.findSome?_cons, ih]
    cases (find rules).hit <;> rfl

theorem hit_evaluate (subscriptions : Subscriptions) (request : Request) :
    (subscriptions.evaluate request).hit =
      (subscriptions.lists.findSome? fun rules => (rules.findException request).hit).or
        (subscriptions.lists.findSome? fun rules => (rules.findBlock request).hit) := by
  rw [evaluate, Scan.hit_orElse, hit_phase, hit_phase]

variable (lists : List RuleSet) (request : Request)

private theorem findSome?_answer? (tables : List Table) :
    lists.findSome? (·.answer? (·.scan request tables)) =
      (lists.findSome? fun rules => (rules.scan request tables).hit).map
        fun hit => ⟨.decided hit.placement, some hit.list⟩ := by
  rw [List.map_findSome?]
  congr
  funext rules
  exact rules.answer?_scan request tables

private theorem ofScan_eq (scan : Scan) :
    Verdict.ofScan scan =
      (scan.hit.map fun hit => (⟨.decided hit.placement, some hit.list⟩ : Verdict)).getD
        ⟨.unmatched, none⟩ := by
  unfold Verdict.ofScan
  cases scan.hit <;> rfl

theorem decide_eq_answers :
    decide ⟨lists⟩ request =
      ((lists.findSome? (·.answer? (·.findException request))).or
        (lists.findSome? (·.answer? (·.findBlock request)))).getD ⟨.unmatched, none⟩ := by
  simp only [RuleSet.findException, RuleSet.findBlock, findSome?_answer?]
  rw [decide, ofScan_eq, hit_evaluate, Option.map_or]
  rfl

theorem isBlocked_decide_iff :
    (decide ⟨lists⟩ request).decision.isBlocked = true ↔
      (∃ rules ∈ lists, rules.Blocks request) ∧ ¬ ∃ rules ∈ lists, rules.Excepts request := by
  change (Decision.ofHit? (evaluate ⟨lists⟩ request).hit).isBlocked = true ↔ _
  rw [hit_evaluate, Decision.isBlocked_ofHit?_or, ← Bool.not_eq_true]
  · simp only [List.findSome?_isSome_iff, RuleSet.isSome_findBlock_iff,
      RuleSet.isSome_findException_iff]
  · intro hit found
    obtain ⟨rules, _, found⟩ := List.exists_of_findSome?_eq_some found
    exact rules.isException_of_findException request found
  · intro hit found
    obtain ⟨rules, _, found⟩ := List.exists_of_findSome?_eq_some found
    exact rules.isException_of_findBlock request found

/-- Lists block the same requests as one list that holds exactly their entries, in any order. -/
theorem isBlocked_eq_of_placements {rules : RuleSet}
    (same : ∀ placement, (∃ list ∈ lists, placement ∈ list.placements) ↔
      placement ∈ rules.placements) :
    (decide ⟨lists⟩ request).decision.isBlocked = (rules.decide request).isBlocked := by
  have spread (kind : Table → Prop) :
      (∃ list ∈ lists, ∃ table, kind table ∧ list.Hits request table) ↔
        ∃ table, kind table ∧ rules.Hits request table := by
    simp only [RuleSet.exists_hits_iff]
    constructor
    · intro ⟨list, among, placement, member, fires⟩
      exact ⟨placement, (same placement).mp ⟨list, among, member⟩, fires⟩
    · intro ⟨placement, member, fires⟩
      obtain ⟨list, among, member⟩ := (same placement).mpr member
      exact ⟨list, among, placement, member, fires⟩
  rw [Bool.eq_iff_iff, isBlocked_decide_iff, RuleSet.isBlocked_decide_iff]
  exact and_congr (spread _) (not_congr (spread _))

/-- The verdict is the answer of the first list that makes an exception, else that of the first
list that blocks, else to let the request through. It blocks the same requests as the lists put
together into one, and of a single list it is that list's decision. -/
theorem decide_by_phases :
    decide ⟨lists⟩ request =
      ((lists.findSome? (·.answer? (·.findException request))).or
        (lists.findSome? (·.answer? (·.findBlock request)))).getD ⟨.unmatched, none⟩ ∧
    (∀ table, (RuleSet.merged lists).table table = lists.flatMap (·.table table)) ∧
    (decide ⟨lists⟩ request).decision.isBlocked =
      ((RuleSet.merged lists).decide request).isBlocked ∧
    ∀ rules, (decide ⟨[rules]⟩ request).decision = rules.decide request := by
  refine ⟨decide_eq_answers lists request, RuleSet.table_merged lists, ?_, ?_⟩
  · apply isBlocked_eq_of_placements
    intro placement
    exact List.mem_flatMap.symm
  · intro rules
    change Decision.ofHit? (evaluate ⟨[rules]⟩ request).hit = _
    rw [hit_evaluate]
    simp [RuleSet.decide, RuleSet.evaluate, Scan.hit_orElse]

end Subscriptions

end FilterList
