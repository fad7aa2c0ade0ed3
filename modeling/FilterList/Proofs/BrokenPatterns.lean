import FilterList.Proofs.FurtherLines
import FilterList.Proofs.WholeUrlPatterns
import Mathlib.Data.List.Forall2

/-! Patterns that cannot be read. Their entries stand in the tables among the others and fire on no
request, so a search for the first entry that fires passes over them, wherever the lines that placed
them stand and in whatever company their list is in force. -/

namespace FilterList

/-- The lines of two lists put together into one, those of each list in their order. -/
inductive Interleaved : List Text → List Text → List Text → Prop where
  | none : Interleaved [] [] []
  | left (line : Text) {lines others all : List Text} (rest : Interleaved lines others all) :
      Interleaved (line :: lines) others (line :: all)
  | right (line : Text) {lines others all : List Text} (rest : Interleaved lines others all) :
      Interleaved lines (line :: others) (line :: all)

namespace Entry

def IsBroken (entry : Entry) : Prop :=
  ∃ pattern, entry.body = .regex pattern ∧ pattern.isValid = false

theorem isSome_brokenSource?_iff {entry : Entry} :
    entry.brokenSource?.isSome = true ↔ entry.IsBroken := by
  unfold brokenSource? IsBroken
  cases entry.body with
  | segments parts => simp
  | regex pattern => cases valid : pattern.isValid <;> simp [valid]

instance : DecidablePred IsBroken := fun _ => decidable_of_iff _ isSome_brokenSource?_iff

theorem IsBroken.not_fires {entry : Entry} (broken : entry.IsBroken) (anchor : Anchor)
    (request : Request) : entry.fires anchor request = false := by
  obtain ⟨pattern, isPattern, invalid⟩ := broken
  unfold fires
  rw [isPattern]
  cases anchor with
  | whole => simp [RegexLibrary.Pattern.isMatch_of_invalid invalid]
  | anywhere | start | stop => simp

end Entry

def Line.PlacesOnlyBroken (line : Text) : Prop :=
  ∀ placement ∈ (Compilation.ofLines [line]).rules.placements, placement.entry.IsBroken

namespace RuleSet

/-- Whatever tables are tried, both lists have the same entry as the first that fires. -/
def SameFirst (rules others : RuleSet) : Prop :=
  ∀ (request : Request) (tables : List Table),
    (tables.flatMap rules.placed).find? (·.fires request) =
      (tables.flatMap others.placed).find? (·.fires request)

variable {rules others : RuleSet}

def only (rules : RuleSet) (kind : Entry → Bool) : RuleSet :=
  { rules with placements := rules.placements.filter (kind ·.entry) }

theorem table_only (rules : RuleSet) (kind : Entry → Bool) (table : Table) :
    (rules.only kind).table table = (rules.table table).filter kind := by
  unfold RuleSet.table only
  rw [List.filterMap_filter, List.filter_filterMap]
  congr
  funext placement
  by_cases here : placement.table = table
  · simp [here, Option.filter_some]
  · simp [here]

def unbroken (rules : RuleSet) : RuleSet := rules.only (¬ ·.IsBroken)

/-- A broken entry is never the first that fires, so it is of no account to those behind it. -/
theorem sameFirst_unbroken (rules : RuleSet) : rules.unbroken.SameFirst rules := by
  intro request tables
  have placed : tables.flatMap rules.unbroken.placed =
      (tables.flatMap rules.placed).filter (¬ ·.entry.IsBroken) := by
    rw [List.filter_flatMap]
    congr
    funext table
    rw [RuleSet.placed, RuleSet.placed, unbroken, table_only, List.filter_map]
    rfl
  rw [placed, List.find?_filter]
  congr
  funext placement
  by_cases broken : placement.entry.IsBroken
  · simp [Placement.fires, broken.not_fires]
  · simp [broken]

theorem SameFirst.of_placements (same : rules.unbroken.placements = others.unbroken.placements) :
    rules.SameFirst others := by
  intro request tables
  have placed : rules.unbroken.placed = others.unbroken.placed := by
    funext table
    unfold RuleSet.placed RuleSet.table
    rw [same]
  rw [← sameFirst_unbroken rules, ← sameFirst_unbroken others, placed]

theorem SameFirst.decide_congr (same : rules.SameFirst others) (request : Request) :
    rules.decide request = others.decide request := by
  have hit (rules : RuleSet) : rules.decide request =
      (rules.inOrder.find? (·.fires request)).elim .unmatched .decided := by
    rw [RuleSet.decide, hit_evaluate]
    cases rules.inOrder.find? (·.fires request) <;> rfl
  rw [hit, hit, inOrder, inOrder, same]

end RuleSet

namespace Subscriptions

theorem decision_congr {lists others : List RuleSet}
    (same : List.Forall₂ RuleSet.SameFirst lists others) (request : Request) :
    (decide ⟨lists⟩ request).decision = (decide ⟨others⟩ request).decision := by
  have answers (tables : List Table) :
      (lists.findSome? (·.answer? (·.scan request tables))).map Verdict.decision =
        (others.findSome? (·.answer? (·.scan request tables))).map Verdict.decision := by
    rw [List.map_findSome?, List.map_findSome?]
    induction same with
    | nil => rfl
    | @cons rules other _ _ first _ ih =>
      have answer : Option.map Verdict.decision (rules.answer? (·.scan request tables)) =
          Option.map Verdict.decision (other.answer? (·.scan request tables)) := by
        simp only [RuleSet.answer?, RuleSet.hit_scan, Option.map_map, first request tables]
        rfl
      rw [List.findSome?_cons, List.findSome?_cons, ih]
      simp only [Function.comp_apply, answer]
  have exceptions := answers Table.exceptions
  have blocks := answers Table.blocks
  rw [decide_eq_answers, decide_eq_answers, ← Option.getD_map Verdict.decision,
    ← Option.getD_map Verdict.decision, Option.map_or, Option.map_or]
  simp only [RuleSet.findException, RuleSet.findBlock, exceptions, blocks]

end Subscriptions

namespace Compilation

theorem Prepared.sameFirst {lines : List Text} {rules : RuleSet} (prepared : Prepared lines rules) :
    rules.SameFirst (ofLines lines).rules := by
  induction prepared with
  | compiled => exact fun _ _ => rfl
  | @reduced rules _ ih =>
    exact fun request tables => (rules.find?_placed_distinct tables _).trans (ih request tables)
  | titled _ _ ih => exact ih

theorem unbroken_interleaved {lines broken all : List Text} (mixed : Interleaved lines broken all)
    (onlyBroken : ∀ line ∈ broken, Line.PlacesOnlyBroken line) :
    (ofLines all).rules.unbroken.placements = (ofLines lines).rules.unbroken.placements := by
  simp only [RuleSet.unbroken, RuleSet.only, placements_ofLines]
  induction mixed with
  | none => rfl
  | left line _ ih =>
    rw [List.flatMap_cons, List.flatMap_cons, List.filter_append, List.filter_append,
      ih onlyBroken]
  | right line _ ih =>
    have none : (Line.outcome line).placements.filter (¬ ·.entry.IsBroken) = [] := by
      have alone := onlyBroken line List.mem_cons_self
      rw [Line.PlacesOnlyBroken, rules_ofLine] at alone
      apply List.filter_eq_nil_iff.mpr
      intro placement placed
      simpa using alone placement placed
    rw [List.flatMap_cons, List.filter_append, none, List.nil_append,
      ih fun other among => onlyBroken other (List.mem_cons_of_mem _ among)]

/-- Lines that place nothing but patterns that cannot be read may be put anywhere among others. The
list decides every request as it does without them, by the same entry or by none; and so do all
lists in force together, at however many places and in whatever form the list stands among them. -/
theorem decision_interleaved {lines broken all : List Text} (mixed : Interleaved lines broken all)
    (onlyBroken : ∀ line ∈ broken, Line.PlacesOnlyBroken line) (page resource : Text) :
    (ofLines all).rules.decide (.ofUrls page resource) =
      (ofLines lines).rules.decide (.ofUrls page resource) ∧
    ∀ lists others : List RuleSet,
      List.Forall₂ (fun rules other =>
        rules = other ∨ Prepared all rules ∧ Prepared lines other) lists others →
      (Subscriptions.decide ⟨lists⟩ (.ofUrls page resource)).decision =
        (Subscriptions.decide ⟨others⟩ (.ofUrls page resource)).decision := by
  have same : (ofLines all).rules.SameFirst (ofLines lines).rules :=
    .of_placements (unbroken_interleaved mixed onlyBroken)
  refine ⟨same.decide_congr _, ?_⟩
  intro lists others replaced
  apply Subscriptions.decision_congr
  refine replaced.imp ?_
  rintro rules other (rfl | ⟨prepared, preparedOther⟩)
  · exact fun _ _ => rfl
  · intro request tables
    exact ((prepared.sameFirst request tables).trans (same request tables)).trans
      (preparedOther.sameFirst request tables).symm

theorem decision_interleaved_ads :
    let lines := ["/ads/".toList, "@@/ads/ok".toList]
    let broken := ["/ads(\\d/".toList, "/[\\d/$third-party,domain=a.test|c.test".toList]
    let all := [broken[0], lines[0], broken[1], lines[1]]
    let pixels := (ofLines ["/pix".toList]).rules
    let request := Request.ofUrls "https://a.test/".toList "https://b.test/ads/x.js".toList
    Interleaved lines broken all ∧ (∀ line ∈ broken, Line.PlacesOnlyBroken line) ∧
    (ofLines all).rules.size = 5 ∧
    ((ofLines all).rules.decide request).isBlocked = true ∧
    (Subscriptions.decide ⟨[pixels, (ofLines all).rules.distinct]⟩ request).decision =
      (Subscriptions.decide ⟨[pixels, (ofLines lines).rules]⟩ request).decision := by
  intro lines broken all pixels request
  have mixed : Interleaved lines broken all := .right _ (.left _ (.right _ (.left _ .none)))
  have onlyBroken : ∀ line ∈ broken, Line.PlacesOnlyBroken line := by
    unfold Line.PlacesOnlyBroken
    decide +kernel
  obtain ⟨alone, together⟩ := decision_interleaved mixed onlyBroken "https://a.test/".toList
    "https://b.test/ads/x.js".toList
  refine ⟨mixed, onlyBroken, by decide +kernel, ?_, ?_⟩
  · rw [alone]
    decide +kernel
  · apply together
    exact .cons (.inl rfl) (.cons (.inr ⟨.reduced .compiled, .compiled⟩) .nil)

end Compilation

end FilterList
