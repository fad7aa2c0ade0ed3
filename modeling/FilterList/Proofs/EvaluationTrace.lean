import FilterList.LogRecord
import FilterList.Proofs.SubscriptionPhases
import Mathlib.Data.List.TakeWhile

/-! What an evaluation records. It tells of the tables in the order in which they are tried, each passed
over or checked, up to the one that decides, and then of the entry that matched there. Of several lists
all tables of exceptions come first, list by list, and then all tables of blocks. The verdict is that of
an evaluation nobody listens to. -/

namespace FilterList

section UpTo
variable {α : Type} {p : α → Bool}

def upTo (p : α → Bool) (items : List α) : List α :=
  items.takeWhile (!p ·) ++ (items.find? p).toList

theorem upTo_of_none {items : List α} (none : ∀ item ∈ items, p item = false) :
    upTo p items = items := by
  have unfound : items.find? p = .none := List.find?_eq_none.mpr (by simpa using none)
  rw [upTo, unfound, List.takeWhile_eq_self_iff.mpr (by simpa using none), Option.toList_none,
    List.append_nil]

theorem upTo_append_of_first {before : List α} {item : α} (none : ∀ item ∈ before, p item = false)
    (first : p item = true) (after : List α) : upTo p (before ++ item :: after) = before ++ [item] := by
  have unfound : before.find? p = .none := List.find?_eq_none.mpr (by simpa using none)
  rw [upTo, List.takeWhile_append_of_pos (by simpa using none), List.find?_append, unfound]
  simp [first]

end UpTo

/-- A table of a list, on the way that an evaluation takes. -/
structure Station where
  rules : RuleSet
  table : Table

namespace Station
variable (request : Request) (station : Station)

def event : Event :=
  if request.admits station.table.scope then
    .checked station.table (station.rules.table station.table).length
  else .skipped station.table (if request.pageHost = none then .noPageHost else .firstParty)

def hit? : Option Hit :=
  if request.admits station.table.scope then
    ((station.rules.table station.table).find? (·.fires station.table.anchor request)).map
      fun entry => ⟨station.rules.label, ⟨station.table, entry⟩⟩
  else none

def decides : Bool := (station.hit? request).isSome

def visit : Scan :=
  ⟨station.hit? request,
    station.event request :: (station.hit? request).toList.map fun hit => .matched hit.placement,
    (station.hit? request).toList⟩

variable {request station}

theorem decides_eq_false (none : station.hit? request = none) :
    station.decides request = false := by
  rw [decides, none]
  rfl

theorem table_of_hit? {hit : Hit} (found : station.hit? request = some hit) :
    hit.placement.table = station.table := by
  obtain ⟨_, found⟩ := Option.ite_none_right_eq_some.mp found
  obtain ⟨entry, _, rfl⟩ := Option.map_eq_some_iff.mp found
  rfl

end Station

namespace Scan

/-- The scan is what comes of going this way: to its end if no table on it has a hit, and otherwise no
further than to the first that has. -/
inductive Tells (request : Request) : List Station → Scan → Prop where
  | through {way : List Station} (none : ∀ station ∈ way, station.hit? request = none) :
      Tells request way ⟨.none, way.map (·.event request), []⟩
  | ends {before after : List Station} {station : Station} {hit : Hit}
      (none : ∀ station ∈ before, station.hit? request = none)
      (found : station.hit? request = some hit) :
      Tells request (before ++ station :: after)
        ⟨some hit, (before ++ [station]).map (·.event request) ++ [.matched hit.placement], [hit]⟩

variable {request : Request} {way next : List Station} {scan following : Scan}

theorem Tells.nothing : empty.Tells request [] := .through nofun

theorem Tells.visit (station : Station) : (station.visit request).Tells request [station] := by
  unfold Station.visit
  cases found : station.hit? request with
  | none => exact .through (List.forall_mem_singleton.mpr found)
  | some hit => exact .ends (List.forall_mem_nil _) found

/-- A second way is gone only where the first was gone to its end. -/
theorem Tells.orElse (tells : scan.Tells request way) (follows : following.Tells request next) :
    (scan.orElse fun _ => following).Tells request (way ++ next) := by
  cases tells with
  | ends none found =>
    rw [List.append_assoc]
    exact .ends none found
  | through none =>
    cases follows with
    | through noneAfter =>
      have neither := List.forall_mem_append.mpr ⟨none, noneAfter⟩
      simpa [Scan.orElse] using Tells.through neither
    | ends noneAfter found =>
      have neither := List.forall_mem_append.mpr ⟨none, noneAfter⟩
      simpa [Scan.orElse] using Tells.ends neither found

end Scan

namespace RuleSet
variable (rules : RuleSet) (request : Request)

/-- The way through some tables of the list. -/
def way (tables : List Table) : List Station := tables.map (Station.mk rules)

theorem scan_cons (table : Table) (rest : List Table) :
    rules.scan request (table :: rest) =
      ((Station.mk rules table).visit request).orElse fun _ => rules.scan request rest := by
  simp only [scan, Request.skipReason?, Station.visit, Station.hit?, Station.event]
  cases request.admits table.scope with
  | false => cases request.pageHost <;> rfl
  | true =>
    cases (rules.table table).find? (·.fires table.anchor request) with
    | none => rfl
    | some entry => rfl

theorem scan_tells (tables : List Table) :
    (rules.scan request tables).Tells request (rules.way tables) := by
  induction tables with
  | nil => exact .nothing
  | cons table rest ih =>
    rw [scan_cons]
    exact (Scan.Tells.visit _).orElse ih

theorem evaluate_tells : (rules.evaluate request).Tells request (rules.way Table.all) := by
  rw [Table.all_eq, way, List.map_append]
  exact (rules.scan_tells request Table.exceptions).orElse (rules.scan_tells request Table.blocks)

end RuleSet

namespace Subscriptions
variable (lists : List RuleSet) (request : Request)

/-- The way through all lists: their tables of exceptions, list by list, and then their tables of
blocks. -/
def way : List Station := lists.flatMap (·.way Table.exceptions) ++ lists.flatMap (·.way Table.blocks)

theorem phase_tells (tables : List Table) :
    (phase (·.scan request tables) lists).Tells request (lists.flatMap (·.way tables)) := by
  induction lists with
  | nil => exact .nothing
  | cons rules rest ih => exact (rules.scan_tells request tables).orElse ih

theorem evaluate_tells : (evaluate ⟨lists⟩ request).Tells request (way lists) :=
  (phase_tells lists request Table.exceptions).orElse (phase_tells lists request Table.blocks)

end Subscriptions

namespace Scan.Tells
variable {request : Request} {way : List Station} {scan : Scan} (tells : scan.Tells request way)
include tells

theorem hit_eq : scan.hit = way.findSome? (·.hit? request) := by
  cases tells with
  | through none => exact (List.findSome?_eq_none_iff.mpr none).symm
  | ends none found =>
    rw [List.findSome?_append, List.findSome?_eq_none_iff.mpr none, Option.none_or,
      List.findSome?_cons, found]

/-- What is put on record is the hit, once. -/
theorem reported_eq : scan.reported = scan.hit.toList := by
  cases tells with
  | through none => rfl
  | ends none found => rfl

theorem level_records :
    (scan.records request).map LogRecord.level = scan.hit.toList.map fun _ => .debug := by
  rw [Scan.records, tells.reported_eq, List.map_map]
  rfl

theorem events_eq :
    scan.events = (upTo (·.decides request) way).map (·.event request) ++
      scan.hit.toList.map fun hit => .matched hit.placement := by
  cases tells with
  | through none =>
    have undecided : ∀ station ∈ way, station.decides request = false :=
      fun station among => Station.decides_eq_false (none station among)
    simp [upTo_of_none undecided]
  | @ends before after station hit none found =>
    have undecided : ∀ station ∈ before, station.decides request = false :=
      fun station among => Station.decides_eq_false (none station among)
    have decided : station.decides request = true := by
      rw [Station.decides, found]
      rfl
    rw [upTo_append_of_first undecided decided]
    rfl

end Scan.Tells

namespace Decision

def tried (decision : Decision) : List Table :=
  upTo (fun table => decision.placement?.any (·.table = table)) Table.all

theorem tried_unmatched : unmatched.tried = Table.all := upTo_of_none fun _ _ => rfl

theorem tried_decided {placement : Placement} {before after : List Table}
    (split : Table.all = before ++ placement.table :: after) :
    (decided placement).tried = before ++ [placement.table] := by
  have once : placement.table ∉ before := by
    have distinct := split ▸ Table.nodup_all
    exact fun among => (List.nodup_append.mp distinct).2.2 _ among _ List.mem_cons_self rfl
  rw [tried, split]
  apply upTo_append_of_first
  · intro table among
    have other : placement.table ≠ table := fun same => once (same ▸ among)
    simpa [placement?] using other
  · simp [placement?]

end Decision

namespace RuleSet
variable (rules : RuleSet) (request : Request)

/-- Of the evaluation of one list the decision tells what was recorded. -/
theorem events_evaluate :
    (rules.evaluate request).events =
      (rules.decide request).tried.map (fun table => (Station.mk rules table).event request) ++
        (rules.decide request).placement?.toList.map .matched := by
  have tells := rules.evaluate_tells request
  unfold RuleSet.decide
  generalize rules.evaluate request = scan at tells ⊢
  generalize shape : rules.way Table.all = way at tells
  cases tells with
  | through none =>
    rw [← shape, Decision.ofHit?, Decision.tried_unmatched]
    simp [RuleSet.way, Decision.placement?]
  | @ends before after station hit none found =>
    obtain ⟨earlier, rest, split, rfl, remaining⟩ := List.map_eq_append_iff.mp shape
    obtain ⟨table, later, rfl, rfl, _⟩ := List.map_eq_cons_iff.mp remaining
    have here : hit.placement.table = table := Station.table_of_hit? found
    rw [← here] at split
    rw [Decision.ofHit?, Decision.tried_decided split, here]
    simp [Decision.placement?]

theorem decide_eq_first :
    rules.decide request = .ofHit? ((rules.way Table.all).findSome? (·.hit? request)) := by
  rw [RuleSet.decide, (rules.evaluate_tells request).hit_eq]

theorem records_evaluate :
    (rules.evaluate request).records request =
      (rules.decide request).placement?.toList.map
        fun placement => .decided request.resource ⟨rules.label, placement⟩ := by
  rw [RuleSet.decide, Scan.records, (rules.evaluate_tells request).reported_eq, hit_evaluate]
  cases rules.inOrder.find? (·.fires request) with
  | none => rfl
  | some placement => rfl

end RuleSet

namespace Subscriptions
variable (lists : List RuleSet) (request : Request)

theorem decide_eq_first :
    decide ⟨lists⟩ request = .ofScan ⟨(way lists).findSome? (·.hit? request), [], []⟩ := by
  rw [← (evaluate_tells lists request).hit_eq]
  rfl

theorem events_evaluate :
    (evaluate ⟨lists⟩ request).events =
      (upTo (·.decides request) (way lists)).map (·.event request) ++
        (decide ⟨lists⟩ request).decision.placement?.toList.map .matched := by
  rw [(evaluate_tells lists request).events_eq, decide, Verdict.ofScan]
  cases (evaluate ⟨lists⟩ request).hit with
  | none => rfl
  | some hit => rfl

theorem records_evaluate :
    (evaluate ⟨lists⟩ request).records request =
      (decide ⟨lists⟩ request).decision.placement?.toList.map fun placement =>
        .decided request.resource ⟨(decide ⟨lists⟩ request).list.getD [], placement⟩ := by
  rw [Scan.records, (evaluate_tells lists request).reported_eq, decide, Verdict.ofScan]
  cases (evaluate ⟨lists⟩ request).hit with
  | none => rfl
  | some hit => rfl

end Subscriptions

/-- Of one list, an evaluation records each table in order, as passed over or as checked, up to the
one that decides, or all of them, and then the entry that decides, if one does. Of several lists it
records the tables of exceptions list by list and then those of blocks, up to the first with a hit, and
then that hit. The decision is that of the first table with a hit, whatever is recorded, and exactly
one record for debugging is written of a request that an entry decides, and none of any other. -/
theorem Request.evaluation_trace (request : Request) :
    (∀ rules : RuleSet,
      Decision.ofHit? (rules.evaluate request).hit = rules.decide request ∧
      rules.decide request = .ofHit? ((rules.way Table.all).findSome? (·.hit? request)) ∧
      (rules.evaluate request).events =
        (rules.decide request).tried.map (fun table => (Station.mk rules table).event request) ++
          (rules.decide request).placement?.toList.map .matched ∧
      (rules.evaluate request).records request =
        (rules.decide request).placement?.toList.map
          fun placement => .decided request.resource ⟨rules.label, placement⟩) ∧
    (∀ lists : List RuleSet,
      Verdict.ofScan (Subscriptions.evaluate ⟨lists⟩ request) = Subscriptions.decide ⟨lists⟩ request ∧
      Subscriptions.decide ⟨lists⟩ request =
        .ofScan ⟨(Subscriptions.way lists).findSome? (·.hit? request), [], []⟩ ∧
      (Subscriptions.evaluate ⟨lists⟩ request).events =
        (upTo (·.decides request) (Subscriptions.way lists)).map (·.event request) ++
          (Subscriptions.decide ⟨lists⟩ request).decision.placement?.toList.map .matched ∧
      (Subscriptions.evaluate ⟨lists⟩ request).records request =
        (Subscriptions.decide ⟨lists⟩ request).decision.placement?.toList.map fun placement =>
          .decided request.resource
            ⟨(Subscriptions.decide ⟨lists⟩ request).list.getD [], placement⟩) ∧
    (∀ (rules : RuleSet) (tables : List Table),
      ((rules.scan request tables).records request).map LogRecord.level =
        (rules.scan request tables).hit.toList.map fun _ => .debug) ∧
    ∀ lists : List RuleSet,
      ((Subscriptions.evaluate ⟨lists⟩ request).records request).map LogRecord.level =
        (Subscriptions.evaluate ⟨lists⟩ request).hit.toList.map fun _ => .debug := by
  refine ⟨?_, ?_, ?_, ?_⟩
  · intro rules
    exact ⟨rfl, rules.decide_eq_first request, rules.events_evaluate request,
      rules.records_evaluate request⟩
  · intro lists
    exact ⟨rfl, Subscriptions.decide_eq_first lists request,
      Subscriptions.events_evaluate lists request, Subscriptions.records_evaluate lists request⟩
  · intro rules tables
    exact (rules.scan_tells request tables).level_records
  · intro lists
    exact (Subscriptions.evaluate_tells lists request).level_records

/-- On a page without a host the tables for domains and for third parties are passed over. -/
example :
    let block : Placement := ⟨.block, none, .segments (.single "/ads/".toList)⟩
    let rules : RuleSet := { placements := [block] }
    (rules.evaluate (.ofUrls "about:blank".toList "https://b.test/ads/".toList)).events =
      [.checked .exception 0, .checked .exceptionFinal 0,
        .skipped .exceptionDomain .noPageHost, .skipped .exceptionDomainInitial .noPageHost,
        .skipped .exceptionDomainFinal .noPageHost, .skipped .exceptionThirdParty .noPageHost,
        .skipped .exceptionThirdPartyDomain .noPageHost,
        .skipped .exceptionThirdPartyDomainInitial .noPageHost,
        .checked .block 1, .matched block] := by
  decide +kernel

end FilterList
