import FilterList.Proofs.CompilerRun
import FilterList.Proofs.SubscriptionPhases

/-! Which requests subscriptions block depends only on the lines in them. Neither the order of the
lines counts, nor how they are spread over lists, nor how often and when each list is added. -/

namespace FilterList.Subscriptions
open Compilation

/-- Subscriptions that hold the lists of some documents, each a sequence of lines: some of them
from the start and others added later. A list that is there may be added again. -/
inductive Loaded : List (List Text) → Subscriptions → Prop where
  | start (documents : List (List Text)) :
      Loaded documents ⟨documents.map fun lines => (ofLines lines).rules⟩
  | add {documents subscriptions} (loaded : Loaded documents subscriptions) (lines : List Text) :
      Loaded (documents ++ [lines]) (subscriptions.add (ofLines lines).rules)
  | share {documents subscriptions rules} (loaded : Loaded documents subscriptions)
      (present : rules ∈ subscriptions.lists) : Loaded documents (subscriptions.add rules)

variable {documents : List (List Text)} {subscriptions : Subscriptions} {placement : Placement}

theorem Loaded.mem_placements (loaded : Loaded documents subscriptions) :
    (∃ rules ∈ subscriptions.lists, placement ∈ rules.placements) ↔
      ∃ lines ∈ documents, placement ∈ (ofLines lines).rules.placements := by
  induction loaded with
  | start documents =>
    constructor
    · intro ⟨list, among, placed⟩
      obtain ⟨lines, member, rfl⟩ := List.mem_map.mp among
      exact ⟨lines, member, placed⟩
    · intro ⟨lines, member, placed⟩
      exact ⟨_, List.mem_map.mpr ⟨lines, member, rfl⟩, placed⟩
  | add loaded lines ih =>
    simp only [Subscriptions.add, List.mem_append, List.mem_singleton, or_and_right, exists_or, ih]
    simp
  | @share documents subscriptions rules loaded present ih =>
    rw [← ih]
    constructor
    · intro ⟨list, among, placed⟩
      rcases List.mem_append.mp among with among | same
      · exact ⟨list, among, placed⟩
      · cases List.mem_singleton.mp same
        exact ⟨rules, present, placed⟩
    · intro ⟨list, among, placed⟩
      exact ⟨list, List.mem_append_left _ among, placed⟩

private theorem mem_placements_flatten :
    placement ∈ (ofLines documents.flatten).rules.placements ↔
      ∃ lines ∈ documents, placement ∈ (ofLines lines).rules.placements := by
  simp only [placements_ofLines, List.mem_flatMap, List.mem_flatten]
  constructor
  · intro ⟨line, ⟨lines, among, member⟩, placed⟩
    exact ⟨lines, among, line, member, placed⟩
  · intro ⟨lines, among, line, member, placed⟩
    exact ⟨line, ⟨lines, among, member⟩, placed⟩

/-- However lines are put in order and cut into documents, and in whatever order and how often the
lists of these are added, the same requests are blocked as by one list of all lines. -/
theorem isBlocked_of_lines {lines : List Text} (loaded : Loaded documents subscriptions)
    (regrouped : documents.flatten.Perm lines) (page resource : Text) :
    (subscriptions.decide (.ofUrls page resource)).decision.isBlocked =
      ((ofLines lines).rules.decide (.ofUrls page resource)).isBlocked := by
  apply isBlocked_eq_of_placements
  intro placement
  rw [loaded.mem_placements, ← mem_placements_flatten]
  simp only [placements_ofLines, List.mem_flatMap, regrouped.mem_iff]

theorem isBlocked_of_lines_swapped :
    let block := "/ads/$third-party".toList
    let exception := "@@/ads/ok".toList
    let page := "https://a.test/".toList
    let resource := "https://b.test/ads/ok.js".toList
    let first := (ofLines [exception]).rules
    let second := (ofLines [block]).rules
    let subscriptions := (add ⟨[first]⟩ second).add first
    Loaded [[exception], [block]] subscriptions ∧
    [[exception], [block]].flatten.Perm [block, exception] ∧
    (subscriptions.decide (.ofUrls page resource)).decision.isBlocked =
      ((ofLines [block, exception]).rules.decide (.ofUrls page resource)).isBlocked := by
  intro block exception page resource first second subscriptions
  have loaded : Loaded [[exception], [block]] subscriptions :=
    .share (.add (.start [[exception]]) [block]) (List.mem_cons_self ..)
  have regrouped : [[exception], [block]].flatten.Perm [block, exception] := List.Perm.swap ..
  exact ⟨loaded, regrouped, isBlocked_of_lines loaded regrouped page resource⟩

end FilterList.Subscriptions
