import FilterList.LoadedList
import FilterList.Proofs.DistinctEntries
import FilterList.Proofs.SubscriptionPhases

/-! Lists loaded from files decide as the lists compiled from the same bytes do, by the same entry.
That repeated entries are gone does not show, and a title put in changes only the name that verdicts
give the list. -/

namespace FilterList

/-- A list goes by the title it gives itself, also an empty one, and else by its file's name. -/
def LoadedList.name (path : Text) (bytes : Bytes) : Text :=
  (Compilation.ofBytes bytes).rules.header.title.getD (Path.fileName path)

namespace LoadedList

theorem hit_scan_ofBytes (path : Text) (bytes : Bytes) (request : Request) (tables : List Table) :
    ((ofBytes path bytes).rules.scan request tables).hit =
      ((Compilation.ofBytes bytes).rules.scan request tables).hit.map
        fun hit => ⟨name path bytes, hit.placement⟩ := by
  have same := (Compilation.ofBytes bytes).rules.find?_placed_distinct tables (·.fires request)
  rw [RuleSet.hit_scan, RuleSet.hit_scan, ← same, Option.map_map]
  rfl

/-- What a list in a file answers in one phase, under its name, if that phase has a hit. -/
def answer? (find : RuleSet → Scan) (source : Text × Bytes) : Option Verdict :=
  (find (Compilation.ofBytes source.2).rules).hit.map
    fun hit => ⟨.decided hit.placement, some (name source.1 source.2)⟩

theorem answer?_ofBytes (request : Request) (tables : List Table) (source : Text × Bytes) :
    (ofBytes source.1 source.2).rules.answer? (·.scan request tables) =
      answer? (·.scan request tables) source := by
  rw [RuleSet.answer?, hit_scan_ofBytes, Option.map_map]
  rfl

theorem loadAll_eq {files : Files} {sources : List (Text × Bytes)} (nonempty : sources ≠ [])
    (readable : ∀ source ∈ sources, files source.1 = .ok source.2) :
    loadAll files (sources.map Prod.fst) =
      .ok (sources.map fun source => ofBytes source.1 source.2) := by
  rw [loadAll, if_neg (by simpa using nonempty)]
  clear nonempty
  induction sources with
  | nil => rfl
  | cons source rest ih =>
    have first : load files source.1 = .ok (ofBytes source.1 source.2) := by
      rw [load, readable source List.mem_cons_self]
    have later := ih fun other among => readable other (List.mem_cons_of_mem _ among)
    rw [List.map_cons, List.mapM_cons, first, later]
    rfl

end LoadedList

namespace Subscriptions
open LoadedList

theorem load_eq {files : Files} {sources : List (Text × Bytes)} (nonempty : sources ≠ [])
    (readable : ∀ source ∈ sources, files source.1 = .ok source.2) :
    load files (sources.map Prod.fst) =
      .ok ⟨sources.map fun source => (ofBytes source.1 source.2).rules⟩ := by
  rw [load, loadAll_eq nonempty readable]
  simp [ofLoaded]

variable (sources : List (Text × Bytes)) (request : Request)

theorem decide_loaded :
    decide ⟨sources.map fun source => (ofBytes source.1 source.2).rules⟩ request =
      ((sources.findSome? (answer? (·.findException request))).or
        (sources.findSome? (answer? (·.findBlock request)))).getD ⟨.unmatched, none⟩ := by
  rw [decide_eq_answers, List.findSome?_map, List.findSome?_map]
  have answered (tables : List Table) :
      (RuleSet.answer? · (·.scan request tables)) ∘
          (fun source : Text × Bytes => (ofBytes source.1 source.2).rules) =
        answer? (·.scan request tables) :=
    funext (answer?_ofBytes request tables)
  exact congrArg₂ (fun exception block => (Option.or exception block).getD _)
    (congrArg (sources.findSome? ·) (answered Table.exceptions))
    (congrArg (sources.findSome? ·) (answered Table.blocks))

theorem decision_loaded :
    (decide ⟨sources.map fun source => (ofBytes source.1 source.2).rules⟩ request).decision =
      (decide ⟨sources.map fun source => (Compilation.ofBytes source.2).rules⟩ request).decision := by
  have answered (find : RuleSet → Scan) :
      (sources.findSome? (answer? find)).map Verdict.decision =
        (sources.findSome? fun source =>
          (Compilation.ofBytes source.2).rules.answer? find).map Verdict.decision := by
    simp only [List.map_findSome?, Function.comp_def, answer?, RuleSet.answer?, Option.map_map]
  rw [decide_loaded, decide_eq_answers, List.findSome?_map, List.findSome?_map,
    ← Option.getD_map Verdict.decision,
    ← Option.getD_map Verdict.decision, Option.map_or, Option.map_or, answered, answered]
  rfl

theorem list_eq_none_iff (subscriptions : Subscriptions) :
    (subscriptions.decide request).list = none ↔
      (subscriptions.decide request).decision = .unmatched := by
  change (subscriptions.evaluate request).hit.map Hit.list = none ↔
    Decision.ofHit? (subscriptions.evaluate request).hit = .unmatched
  cases (subscriptions.evaluate request).hit with
  | none => simp [Decision.ofHit?]
  | some hit => simp [Decision.ofHit?]

/-- Files that can be read are loaded, and their lists put in force decide every request as the lists
compiled from their bytes do: the same entry, or none. The verdict is that of the first list with an
exception, or else of the first with a block, under the title it gives itself or its file's name;
no list is named only where no entry decides. -/
theorem load_decides {files : Files} {sources : List (Text × Bytes)} (nonempty : sources ≠ [])
    (readable : ∀ source ∈ sources, files source.1 = .ok source.2) :
    ∃ subscriptions, load files (sources.map Prod.fst) = .ok subscriptions ∧
      ∀ page resource,
        (subscriptions.decide (.ofUrls page resource)).decision =
          (decide ⟨sources.map fun source => (Compilation.ofBytes source.2).rules⟩
            (.ofUrls page resource)).decision ∧
        subscriptions.decide (.ofUrls page resource) =
          ((sources.findSome? (answer? (·.findException (.ofUrls page resource)))).or
            (sources.findSome? (answer? (·.findBlock (.ofUrls page resource))))).getD
            ⟨.unmatched, none⟩ ∧
        ((subscriptions.decide (.ofUrls page resource)).list = none ↔
          (subscriptions.decide (.ofUrls page resource)).decision = .unmatched) := by
  refine ⟨_, load_eq nonempty readable, fun page resource => ?_⟩
  exact ⟨decision_loaded sources _, decide_loaded sources _, list_eq_none_iff _ _⟩

theorem load_decides_untitled :
    let plain := "/pix\n/ads\n/ads".toList
    let titled := "! Title:\n@@/ads/ok".toList
    let sources := [("lists/plain.txt".toList, Text.toUtf8 plain),
      ("titled.txt".toList, Text.toUtf8 titled)]
    let files := (FileTree.ofPaths sources).read
    sources ≠ [] ∧ (∀ source ∈ sources, files source.1 = .ok source.2) ∧
    ∃ subscriptions, load files (sources.map Prod.fst) = .ok subscriptions ∧
      (subscriptions.decide (.ofUrls [] "http://a.test/ads/x".toList)).list =
        some "plain.txt".toList ∧
      (subscriptions.decide (.ofUrls [] "http://a.test/ads/ok".toList)).list = some [] ∧
      (subscriptions.decide (.ofUrls [] "http://a.test/".toList)).decision = .unmatched := by
  intro plain titled sources files
  have nonempty : sources ≠ [] := List.cons_ne_nil _ _
  have readable : ∀ source ∈ sources, files source.1 = .ok source.2 := by
    intro source among
    obtain rfl | among := List.mem_cons.mp among
    · rfl
    · obtain rfl := List.mem_singleton.mp among
      rfl
  obtain ⟨subscriptions, loaded, decides⟩ := load_decides nonempty readable
  refine ⟨nonempty, readable, subscriptions, loaded, ?_, ?_, ?_⟩
  · rw [(decides [] _).2.1]
    decide +kernel
  · rw [(decides [] _).2.1]
    decide +kernel
  · rw [(decides [] _).1]
    decide +kernel

end Subscriptions

end FilterList
