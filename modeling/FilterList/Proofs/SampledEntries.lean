import FilterList.Sampling
import FilterList.Proofs.DecisionOrder
import FilterList.Proofs.LineRecords
import FilterList.Proofs.PlacedEntries
import Mathlib.Order.Lattice

/-! The requests to measure a list with are made from entries at even distances, up to a sample. The
distance leaves room for the whole sample, and every entry of a compiled list that is no regular
expression gives a request, so no place in the sample stays empty. -/

namespace FilterList

section EvenDistances
variable {α β : Type} {stride : Nat}

theorem getElem?_everyNth (forward : 0 < stride) (skip : Nat) (items : List α) (place : Nat) :
    (everyNth stride skip items)[place]? = items[skip + place * stride]? := by
  induction items generalizing skip place with
  | nil => rfl
  | cons item rest ih =>
    cases skip with
    | succ skip => rw [everyNth, ih, Nat.add_right_comm, List.getElem?_cons_succ]
    | zero =>
      cases place with
      | zero => simp [everyNth]
      | succ place =>
        have onward : 0 + (place + 1) * stride = (stride - 1 + place * stride) + 1 := by
          rw [Nat.succ_mul]
          omega
        rw [everyNth, List.getElem?_cons_succ, ih, onward, List.getElem?_cons_succ]

def sampleStride (count sample : Nat) : Nat := max (count / max sample 1) 1

theorem sampleStride_pos (count sample : Nat) : 0 < sampleStride count sample :=
  Nat.le_max_right _ 1

theorem mul_sampleStride_lt {count sample place : Nat} (within : place < min sample count) :
    place * sampleStride count sample < count := by
  obtain ⟨inSample, inside⟩ := Nat.lt_min.mp within
  have nonempty : max sample 1 = sample := Nat.max_eq_left (by omega)
  rw [sampleStride, nonempty]
  rcases Nat.eq_zero_or_pos (count / sample) with few | many
  · rw [few, Nat.max_eq_right (Nat.zero_le 1), Nat.mul_one]
    exact inside
  · calc place * max (count / sample) 1
      _ = place * (count / sample) := by rw [Nat.max_eq_left many]
      _ < sample * (count / sample) := Nat.mul_lt_mul_of_pos_right inSample many
      _ ≤ count := Nat.mul_div_le count sample

def sampled (items : List α) (sample : Nat) : List α :=
  (everyNth (sampleStride items.length sample) 0 items).take sample

theorem getElem?_sampled {items : List α} {sample place : Nat}
    (within : place < min sample items.length) :
    (sampled items sample)[place]? = items[place * sampleStride items.length sample]? := by
  rw [sampled, List.getElem?_take_of_lt (Nat.lt_min.mp within).1,
    getElem?_everyNth (sampleStride_pos _ _), Nat.zero_add]

theorem length_sampled (items : List α) (sample : Nat) :
    (sampled items sample).length = min sample items.length := by
  apply le_antisymm
  · have stop : (everyNth (sampleStride items.length sample) 0 items)[items.length]? = none := by
      rw [getElem?_everyNth (sampleStride_pos _ _), Nat.zero_add, List.getElem?_eq_none_iff]
      exact Nat.le_mul_of_pos_right _ (sampleStride_pos _ _)
    rw [sampled, List.length_take]
    exact inf_le_inf_left sample (List.getElem?_eq_none_iff.mp stop)
  · apply le_of_forall_lt
    intro place within
    have found : (sampled items sample)[place]? ≠ none := by
      rw [getElem?_sampled within, ne_eq, List.getElem?_eq_none_iff, not_le]
      exact mul_sampleStride_lt within
    rwa [ne_eq, List.getElem?_eq_none_iff, not_le] at found

theorem mem_of_mem_sampled {items : List α} {sample : Nat} {item : α}
    (member : item ∈ sampled items sample) : item ∈ items := by
  obtain ⟨place, found⟩ := List.mem_iff_getElem?.mp member
  have within := (List.getElem?_eq_some_iff.mp found).1
  rw [length_sampled] at within
  rw [getElem?_sampled within] at found
  exact List.mem_of_getElem? found

/-- Where every item is kept in some form, each stays in its place. -/
theorem map_some_filterMap {f : α → Option β} {items : List α}
    (kept : ∀ item ∈ items, ∃ form, f item = some form) :
    (items.filterMap f).map some = items.map f := by
  induction items with
  | nil => rfl
  | cons item rest ih =>
    obtain ⟨first, others⟩ := List.forall_mem_cons.mp kept
    obtain ⟨form, same⟩ := first
    rw [List.filterMap_cons_some same, List.map_cons, List.map_cons, ih others, same]

end EvenDistances

/-- The resource that is asked for in the name of segments: these with slashes between them, behind a
host except where the table pins them to the start of URLs. -/
inductive Segments.AskedFor (parts : Segments) : Anchor → Text → Prop where
  | start : AskedFor parts .start (Text.join ['/'] parts.toList)
  | stop : AskedFor parts .stop (Probe.resourceHost ++ '/' :: Text.join ['/'] parts.toList)
  | anywhere : AskedFor parts .anywhere
      (Probe.resourceHost ++ '/' :: Text.join ['/'] parts.toList ++ "/x".toList)

namespace Probe

def pageOn (domain : Text) : Text := "https://".toList ++ domain ++ ['/']

def pageFor (scope : Scope) : Option Text → Text
  | some domain => if scope.domain then pageOn domain else plainPage
  | none => plainPage

theorem pageFor_of_takes {table : Table} {domain : Option Text} {thirdParty regex : Bool}
    (takes : table.Takes domain.isSome thirdParty regex) :
    pageFor table.scope domain = domain.elim plainPage pageOn := by
  rw [takes.scope]
  cases domain <;> rfl

theorem exists_ofPlacement? {table : Table} {domain : Option Text} {thirdParty : Bool}
    (takes : table.Takes domain.isSome thirdParty false) (parts : Segments) :
    ∃ resource, ofPlacement? ⟨table, domain, .segments parts⟩ =
        some ⟨domain.elim plainPage pageOn, resource⟩ ∧ parts.AskedFor table.anchor resource := by
  have unread : table.anchor ≠ .whole := of_decide_eq_false takes.anchor.symm
  rw [← pageFor_of_takes takes]
  simp only [ofPlacement?, Entry.segments?, Option.bind_eq_bind, Option.bind_some]
  cases pinned : table.anchor with
  | start => exact ⟨_, rfl, .start⟩
  | stop => exact ⟨_, rfl, .stop⟩
  | anywhere => exact ⟨_, rfl, .anywhere⟩
  | whole => exact absurd pinned unread

end Probe

theorem RuleSet.shapeable_eq (rules : RuleSet) :
    rules.shapeable = rules.inOrder.filter (!·.entry.isRegex) := by
  rw [inOrder, List.filter_flatMap]
  apply congrArg (List.flatMap · Table.all)
  funext table
  rw [placed, List.filter_map]
  rfl

theorem RuleSet.length_shapeable (rules : RuleSet) :
    rules.shapeable.length = rules.placements.countP (!·.entry.isRegex) := by
  rw [rules.countP_placements (!·.isRegex), shapeable_eq, ← List.countP_eq_length_filter, inOrder,
    List.countP_flatMap]
  apply congrArg List.sum
  apply List.map_congr_left
  intro table _
  exact List.countP_map

namespace Compilation

/-- The table of an entry takes its kind, and is for pages of domains where it has one. -/
theorem takes_of_compiled {lines : List Text} {placement : Placement}
    (compiled : placement ∈ (ofLines lines).rules.placements) :
    ∃ thirdParty, placement.table.Takes placement.entry.domain.isSome thirdParty
      placement.entry.isRegex := by
  rw [placements_ofLines] at compiled
  obtain ⟨line, _, placed⟩ := List.mem_flatMap.mp compiled
  obtain ⟨rule, _, follows⟩ := Line.follows_of_placed placed
  exact ⟨_, follows.takes⟩

theorem exists_probe_of_compiled {lines : List Text} {placement : Placement}
    (compiled : placement ∈ (ofLines lines).rules.placements)
    (plain : placement.entry.isRegex = false) :
    ∃ probe, Probe.ofPlacement? placement = some probe := by
  obtain ⟨thirdParty, takes⟩ := takes_of_compiled compiled
  obtain ⟨table, domain, body⟩ := placement
  cases body with
  | segments parts =>
    obtain ⟨resource, asked, _⟩ := Probe.exists_ofPlacement? takes parts
    exact ⟨_, asked⟩
  | regex pattern => cases plain

/-- The requests made from a list are as many as its entries that are no regular expressions, up to
the sample. They are those of the entries at even distances, in the order of the tables, and none of
these is left out. -/
theorem probes_at_even_distances (lines : List Text) (sample : Nat) :
    let rules := (ofLines lines).rules
    let entries := rules.inOrder.filter (!·.entry.isRegex)
    let stride := max 1 (entries.length / max 1 sample)
    entries.length = rules.placements.countP (!·.entry.isRegex) ∧
    (rules.probes sample).length = min sample entries.length ∧
    ∀ place < min sample entries.length, place * stride < entries.length ∧
      ∃ placement probe, entries[place * stride]? = some placement ∧
        Probe.ofPlacement? placement = some probe ∧ (rules.probes sample)[place]? = some probe := by
  intro rules entries stride
  have listed : rules.shapeable = entries := rules.shapeable_eq
  have sameStride : sampleStride entries.length sample = stride := by
    rw [sampleStride, Nat.max_comm sample, Nat.max_comm]
  have probes : rules.probes sample = (sampled entries sample).filterMap Probe.ofPlacement? := by
    rw [← listed]
    rfl
  have kept : ∀ placement ∈ sampled entries sample, ∃ probe,
      Probe.ofPlacement? placement = some probe := by
    intro placement member
    obtain ⟨among, plain⟩ := List.mem_filter.mp (mem_of_mem_sampled member)
    have compiled := (rules.mem_flatMap_placed.mp among).2
    exact exists_probe_of_compiled compiled (by simpa using plain)
  have inPlace := map_some_filterMap kept
  rw [← probes] at inPlace
  have length := length_sampled entries sample
  refine ⟨?_, ?_, ?_⟩
  · rw [← listed]
    exact rules.length_shapeable
  · have counted := congrArg List.length inPlace
    rwa [List.length_map, List.length_map, length] at counted
  · intro place within
    have inside := mul_sampleStride_lt within
    have taken := getElem?_sampled within
    rw [sameStride] at inside taken
    rw [List.getElem?_eq_getElem inside] at taken
    obtain ⟨probe, made⟩ := kept _ (List.mem_of_getElem? taken)
    refine ⟨inside, _, probe, List.getElem?_eq_getElem inside, made, ?_⟩
    have same := congrArg (·[place]?) inPlace
    simpa [taken, made] using same

theorem probes_at_even_distances_of_five :
    let lines := ["ads".toList, "/x\\d/".toList, "px$domain=a.test|b.test".toList, "@@ok".toList,
      ".gif|".toList]
    let rules := (ofLines lines).rules
    let shown : Entry := ⟨none, .segments (.single ".gif".toList)⟩
    let entries := rules.inOrder.filter (!·.entry.isRegex)
    1 < min 2 entries.length ∧ (rules.probes 2).length = 2 ∧
      entries[1 * max 1 (entries.length / max 1 2)]? = some ⟨.blockFinal, shown⟩ ∧
      (rules.probes 2)[1]? = some ⟨Probe.plainPage, "https://cdn.bench.test/.gif".toList⟩ := by
  intro lines rules shown entries
  have count : entries.length = 5 := by decide +kernel
  have within : 1 < min 2 entries.length := by rw [count]; decide
  obtain ⟨_, length, places⟩ := probes_at_even_distances lines 2
  obtain ⟨_, placement, probe, there, made, asked⟩ := places 1 within
  have third : entries[1 * max 1 (entries.length / max 1 2)]? = some ⟨.blockFinal, shown⟩ := by
    decide +kernel
  cases third.symm.trans there
  have built : Probe.ofPlacement? ⟨.blockFinal, shown⟩ =
      some ⟨Probe.plainPage, "https://cdn.bench.test/.gif".toList⟩ := by decide +kernel
  cases built.symm.trans made
  refine ⟨within, length.trans ?_, third, asked⟩
  rw [count]
  rfl

end Compilation

end FilterList
