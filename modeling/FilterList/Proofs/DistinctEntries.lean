import FilterList.Distinct
import FilterList.Proofs.DecisionOrder
import Mathlib.Algebra.BigOperators.Group.List.Basic
import Mathlib.Algebra.GroupWithZero.Nat
import Mathlib.Data.List.Induction

/-! A list may be freed of repeated entries at any time while entries are added to it and requests
are decided. No decision shows whether that was done, since what counts for it is the first of each
entry in a table, and these are the same with and without. -/

namespace FilterList

section FirstOccurrences
variable {α β : Type} [DecidableEq α] [DecidableEq β]

/-- The items that have nothing equal to them further to the front. -/
def firstOccurrences (items : List α) : List α :=
  (items.zipIdx.filter fun (item, place) => item ∉ items.take place).map Prod.fst

theorem firstOccurrences_concat (items : List α) (item : α) :
    firstOccurrences (items ++ [item]) =
      firstOccurrences items ++ if item ∈ items then [] else [item] := by
  have earlier : ∀ pair ∈ items.zipIdx,
      decide (pair.1 ∉ (items ++ [item]).take pair.2) = decide (pair.1 ∉ items.take pair.2) := by
    intro pair member
    have inside := List.snd_lt_of_mem_zipIdx member
    rw [List.take_append_of_le_length (by omega)]
  unfold firstOccurrences
  rw [List.zipIdx_append, List.filter_append, List.map_append, List.filter_congr earlier]
  congr 1
  by_cases present : item ∈ items <;> simp [present]

theorem eraseDups_concat (items : List α) (item : α) :
    (items ++ [item]).eraseDups = items.eraseDups ++ if item ∈ items then [] else [item] := by
  rw [List.eraseDups_append]
  congr 1
  by_cases present : item ∈ items <;> simp [List.removeAll, List.eraseDups_cons, present]

theorem eraseDups_eq_firstOccurrences (items : List α) :
    items.eraseDups = firstOccurrences items := by
  induction items using List.reverseRecOn with
  | nil => rfl
  | append_singleton items item ih => rw [eraseDups_concat, firstOccurrences_concat, ih]

theorem eraseDups_idem (items : List α) : items.eraseDups.eraseDups = items.eraseDups := by
  induction items using List.reverseRecOn with
  | nil => rfl
  | append_singleton items item ih =>
    rw [eraseDups_concat]
    by_cases present : item ∈ items
    · simpa [present] using ih
    · rw [if_neg present, eraseDups_concat, ih]
      simp [present]

theorem eraseDups_eraseDups_concat (items : List α) (item : α) :
    (items.eraseDups ++ [item]).eraseDups = (items ++ [item]).eraseDups := by
  rw [eraseDups_concat, eraseDups_concat, eraseDups_idem]
  simp only [List.mem_eraseDups]

theorem length_eraseDups_le (items : List α) : items.eraseDups.length ≤ items.length := by
  rw [eraseDups_eq_firstOccurrences, firstOccurrences, List.length_map]
  exact Nat.le_trans (List.length_filter_le ..) (Nat.le_of_eq List.length_zipIdx)

/-- Looking for the first item with a property never needs a repeated one. -/
theorem find?_eraseDups (items : List α) (p : α → Bool) :
    items.eraseDups.find? p = items.find? p := by
  induction items using List.reverseRecOn with
  | nil => rfl
  | append_singleton items item ih =>
    rw [eraseDups_concat, List.find?_append, List.find?_append, ih]
    by_cases present : item ∈ items
    · rw [if_pos present]
      cases found : items.find? p with
      | some other => rfl
      | none =>
        have refused := List.find?_eq_none.mp found item present
        simp [refused]
    · rw [if_neg present]

theorem filterMap_eraseDups {f : α → Option β}
    (injective : ∀ first second image, f first = some image → f second = some image → first = second)
    (items : List α) : items.eraseDups.filterMap f = (items.filterMap f).eraseDups := by
  induction items using List.reverseRecOn with
  | nil => rfl
  | append_singleton items item ih =>
    rw [eraseDups_concat, List.filterMap_append, List.filterMap_append, ih]
    cases image : f item with
    | none => by_cases present : item ∈ items <;> simp [present, image]
    | some value =>
      have same : value ∈ items.filterMap f ↔ item ∈ items := by
        constructor
        · intro member
          obtain ⟨other, among, reaches⟩ := List.mem_filterMap.mp member
          exact injective other item value reaches image ▸ among
        · intro member
          exact List.mem_filterMap.mpr ⟨item, member, image⟩
      have only : [item].filterMap f = [value] := by simp [image]
      rw [only, eraseDups_concat]
      by_cases present : item ∈ items <;> simp [same, present, image]

end FirstOccurrences

namespace RuleSet
variable (rules : RuleSet)

theorem table_distinct (table : Table) :
    rules.distinct.table table = firstOccurrences (rules.table table) := by
  rw [← eraseDups_eq_firstOccurrences]
  apply filterMap_eraseDups
  intro first second entry isFirst isSecond
  obtain ⟨here, sameFirst⟩ := Option.ite_none_right_eq_some.mp isFirst
  obtain ⟨there, sameSecond⟩ := Option.ite_none_right_eq_some.mp isSecond
  cases first
  cases second
  cases here
  cases there
  cases sameFirst
  cases sameSecond
  rfl

theorem distinct_distinct : rules.distinct.distinct = rules.distinct := by
  unfold distinct
  rw [eraseDups_idem]

/-- An entry added after the reduction is found repeated where it would have been before. -/
theorem distinct_push_distinct (table : Table) (entry : Entry) :
    (rules.distinct.push table entry).distinct = (rules.push table entry).distinct := by
  unfold distinct push
  rw [eraseDups_eraseDups_concat]

/-- Trying some tables finds the first entry that fires, be it repeated later or not. -/
theorem find?_placed_distinct (tables : List Table) (p : Placement → Bool) :
    (tables.flatMap rules.distinct.placed).find? p = (tables.flatMap rules.placed).find? p := by
  have inTable (table : Table) :
      (rules.distinct.placed table).find? p = (rules.placed table).find? p := by
    unfold placed
    rw [List.find?_map, List.find?_map, table_distinct, ← eraseDups_eq_firstOccurrences,
      find?_eraseDups]
  induction tables with
  | nil => rfl
  | cons table rest ih =>
    rw [List.flatMap_cons, List.flatMap_cons, List.find?_append, List.find?_append, ih, inTable]

theorem find?_inOrder_distinct (p : Placement → Bool) :
    rules.distinct.inOrder.find? p = rules.inOrder.find? p :=
  rules.find?_placed_distinct Table.all p

theorem decide_distinct (request : Request) :
    rules.distinct.decide request = rules.decide request := by
  unfold RuleSet.decide
  rw [hit_evaluate, hit_evaluate, find?_inOrder_distinct]
  rfl

private theorem sum_one_table (target : Table) :
    (Table.all.map fun table => if target = table then 1 else 0).sum = 1 := by
  cases target <;> decide

theorem size_eq_sum_counts : rules.size = (rules.counts.map Prod.snd).sum := by
  obtain ⟨header, placements⟩ := rules
  unfold counts size
  rw [List.map_map]
  simp only [Function.comp_def]
  induction placements with
  | nil => simp [RuleSet.table]
  | cons placement rest ih =>
    have longer : ∀ table, ((RuleSet.mk header (placement :: rest)).table table).length =
        ((RuleSet.mk header rest).table table).length +
          if placement.table = table then 1 else 0 := by
      intro table
      unfold RuleSet.table
      rw [List.filterMap_cons]
      by_cases here : placement.table = table <;> simp [here]
    simp only [longer, List.sum_map_add, ← ih, sum_one_table, List.length_cons]

end RuleSet

/-- What may be done with a list: an entry is added, repeated entries go, a request is decided. -/
inductive RuleSet.Step where
  | push (table : Table) (entry : Entry)
  | reduce
  | check (page resource : Text)
  deriving DecidableEq

namespace RuleSet.Step

def next (rules : RuleSet) : Step → RuleSet
  | push table entry => rules.push table entry
  | reduce => rules.distinct
  | check _ _ => rules

def answer? (rules : RuleSet) : Step → Option Decision
  | check page resource => some (rules.decide (.ofUrls page resource))
  | _ => none

def answers (rules : RuleSet) : List Step → List Decision
  | [] => []
  | step :: rest => (step.answer? rules).toList ++ answers (step.next rules) rest

variable {left right : RuleSet}

/-- Lists that are the same without their repeated entries stay so in every step. -/
theorem next_distinct (same : left.distinct = right.distinct) (step : Step) :
    (step.next left).distinct = (step.next right).distinct := by
  cases step with
  | push table entry =>
    change (left.push table entry).distinct = (right.push table entry).distinct
    rw [← distinct_push_distinct, same, distinct_push_distinct]
  | reduce => exact congrArg distinct same
  | check _ _ => exact same

theorem answer?_distinct (same : left.distinct = right.distinct) (step : Step) :
    step.answer? left = step.answer? right := by
  cases step with
  | push _ _ => rfl
  | reduce => rfl
  | check page resource =>
    change some _ = some _
    rw [← left.decide_distinct, same, right.decide_distinct]

/-- The reductions of a run leave no mark on its answers. -/
theorem answers_reduced (same : left.distinct = right.distinct) (steps : List Step) :
    answers left steps = answers right (steps.filter (· ≠ reduce)) := by
  induction steps generalizing left right with
  | nil => rfl
  | cons step rest ih =>
    by_cases reduces : step = reduce
    · subst reduces
      have kept : left.distinct.distinct = right.distinct := by rw [distinct_distinct, same]
      exact ih kept
    · have kept := next_distinct same step
      rw [List.filter_cons_of_pos (by simpa using reduces)]
      simp only [answers]
      rw [answer?_distinct same step, ih kept]

end RuleSet.Step

namespace RuleSet

/-- Freeing a list of repeated entries, at any points of a run and any number of times, changes no
decision of the run. It leaves the header alone and the first of each entry in a table, in order.
It reports how many entries all tables had and how many they have left, and done once more it
finds nothing to do. -/
theorem answers_without_reduce (rules : RuleSet) (steps : List Step) :
    Step.answers rules steps = Step.answers rules (steps.filter (· ≠ .reduce)) ∧
    rules.distinct.header = rules.header ∧
    (∀ table, rules.distinct.table table = firstOccurrences (rules.table table)) ∧
    rules.reduction.before = (rules.counts.map Prod.snd).sum ∧
    rules.reduction.after = (rules.distinct.counts.map Prod.snd).sum ∧
    rules.reduction.before = rules.reduction.after + rules.reduction.removed ∧
    rules.distinct.distinct = rules.distinct ∧ rules.distinct.reduction.removed = 0 := by
  have shorter : rules.reduction.after ≤ rules.reduction.before := length_eraseDups_le _
  refine ⟨Step.answers_reduced rfl steps, rfl, rules.table_distinct, rules.size_eq_sum_counts,
    rules.distinct.size_eq_sum_counts, ?_, rules.distinct_distinct, ?_⟩
  · unfold Reduction.removed
    omega
  · unfold Reduction.removed reduction
    rw [distinct_distinct]
    exact Nat.sub_self _

end RuleSet

end FilterList
