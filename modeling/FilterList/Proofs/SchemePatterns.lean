import FilterList.Proofs.CompilerRun
import FilterList.Proofs.PlacedEntries

/-! Patterns pinned to the start of URLs on pages of domains. Three tables take none that is a scheme
and nothing else, but the scheme is only looked for as it is written. A pattern that comes to the same
by a star or by the start of a scheme is kept, and how wide it is can be told from the scheme alone. -/

namespace FilterList

def Table.refusesScheme : Table → Bool
  | exceptionDomainInitial | blockDomainInitial | blockThirdPartyDomainInitial => true
  | _ => false

/-- The segments are those of a pattern that is more than a scheme, or at least is written otherwise. -/
def Segments.BeyondScheme (segments : Segments) : Prop :=
  ∀ scheme ∈ ["http://", "https://", "http:", "https:"], segments.toText ≠ scheme.toList

def Placement.BeyondScheme (placement : Placement) : Prop :=
  placement.table.refusesScheme = true →
    ∃ segments, placement.entry.body = .segments segments ∧ segments.BeyondScheme

namespace Segments
variable (segments : Segments)

/-- Segments occur from the start of all URLs that start alike exactly where they occur in what these
have in common. -/
theorem occurFromStart_extensions_iff (start : Text) :
    (∀ url, start <+: url → occurFromStart segments.toList url = true) ↔
      segments.first <+: start ∧ ∀ segment ∈ segments.toList.tail, segment <:+: start := by
  constructor
  · intro everywhere
    exact (occurFromStart_iff segments.ne_nil).mp (everywhere start (List.prefix_refl start))
  · intro ⟨opens, inside⟩ url longer
    refine (occurFromStart_iff segments.ne_nil).mpr ⟨opens.trans longer, ?_⟩
    exact fun segment among => (inside segment among).trans longer.isInfix

end Segments

namespace Rule

theorem beyondScheme_of_passed {pattern : Text} {limit : Nat} {segments : Segments}
    (passed : refuseBareScheme pattern = .ok ())
    (kept : segmentsOf pattern limit = .ok segments) : segments.BeyondScheme := by
  intro scheme among same
  rw [toText_of_segmentsOf kept] at same
  have bare : (["http://", "https://", "http:", "https:"].any
      fun scheme => pattern == scheme.toList) = true :=
    List.any_eq_true.mpr ⟨scheme, among, beq_iff_eq.mpr same⟩
  rw [refuseBareScheme, if_pos bare] at passed
  cases passed

section Placing
variable {table : Table}

theorem placeStartForDomains_beyondScheme (list pattern : Text) :
    Places Placement.BeyondScheme (placeStartForDomains table list pattern) := by
  apply Places.bind
  intro _ passed
  apply Places.bind
  intro segments kept
  apply Places.orNoUsableDomain
  intro placement placed _
  obtain ⟨domain, _, rfl⟩ := List.mem_map.mp placed
  exact ⟨segments, rfl, beyondScheme_of_passed passed kept⟩

variable (free : table.refusesScheme = false)
include free

theorem beyondScheme_of_free (entry : Entry) : Placement.BeyondScheme ⟨table, entry⟩ := by
  intro refuses
  rw [free] at refuses
  cases refuses

theorem placePattern_beyondScheme (pattern : Text) (limit : Nat) :
    Places Placement.BeyondScheme (placePattern table pattern limit) :=
  .bind fun _ _ => .ok (List.forall_mem_singleton.mpr (beyondScheme_of_free free _))

theorem placeRegex_beyondScheme (pattern : Text) :
    Places Placement.BeyondScheme (placeRegex table pattern) :=
  .bind fun _ _ => .ok (List.forall_mem_singleton.mpr (beyondScheme_of_free free _))

theorem placeForDomains_beyondScheme (list : Text) (body : Body) :
    Places Placement.BeyondScheme (placeForDomains table list body) := by
  apply Places.orNoUsableDomain
  intro placement placed
  obtain ⟨domain, _, rfl⟩ := List.mem_map.mp placed
  exact beyondScheme_of_free free _

end Placing

section Exceptions
variable (pattern : Text)

theorem thirdPartyException_beyondScheme (domains : Option Text) :
    Places Placement.BeyondScheme (thirdPartyException pattern domains) := by
  unfold thirdPartyException
  cases domains with
  | none => exact placePattern_beyondScheme rfl pattern _
  | some list =>
    cases ['|'].isPrefixOf? pattern with
    | none => exact .bind fun _ _ => placeForDomains_beyondScheme rfl list _
    | some pinned => exact .bind fun _ _ => placeForDomains_beyondScheme rfl list _

theorem domainException_beyondScheme (list : Text) :
    Places Placement.BeyondScheme (domainException pattern list) := by
  unfold domainException
  split
  · exact placeStartForDomains_beyondScheme list _
  · exact .bind fun _ _ => placeForDomains_beyondScheme rfl list _
  · split
    · exact .error
    · exact .bind fun _ _ => placeForDomains_beyondScheme rfl list _

theorem exception_beyondScheme (rule : Text) :
    Places Placement.BeyondScheme (exception rule) := by
  dsimp only [exception]
  split
  · split
    · exact placePattern_beyondScheme rfl _ _
    · exact placePattern_beyondScheme rfl _ _
  next pattern options _ =>
    split
    · exact .error
    · split
      · exact thirdPartyException_beyondScheme pattern _
      · cases (Options.ofText options).domains with
        | none => exact .error
        | some list => exact domainException_beyondScheme pattern list

end Exceptions

section Blocks
variable (pattern list : Text)

theorem mixedThirdParty_beyondScheme :
    Places Placement.BeyondScheme (mixedThirdParty pattern list) := by
  apply Places.bind
  intro segments _
  apply Places.orNoUsableDomain
  intro placement placed
  obtain limited | everywhere := List.mem_append.mp placed
  · obtain ⟨item, _, made⟩ := List.mem_filterMap.mp limited
    split at made
    · obtain ⟨exempt, _, rfl⟩ := Option.map_eq_some_iff.mp made
      exact beyondScheme_of_free rfl _
    · cases made
      exact beyondScheme_of_free rfl _
  · split at everywhere
    · cases List.mem_singleton.mp everywhere
      exact beyondScheme_of_free rfl _
    · cases everywhere

theorem thirdPartyBlock_beyondScheme (domains : Option Text) :
    Places Placement.BeyondScheme (thirdPartyBlock pattern domains) := by
  unfold thirdPartyBlock
  split
  · exact placePattern_beyondScheme rfl _ _
  · exact placeStartForDomains_beyondScheme _ _
  · split
    · exact placeRegex_beyondScheme rfl _
    · exact placePattern_beyondScheme rfl _ _
  · split
    · exact .bind fun _ _ => placeForDomains_beyondScheme rfl _ _
    · exact mixedThirdParty_beyondScheme pattern _

theorem domainBlock_beyondScheme :
    Places Placement.BeyondScheme (domainBlock pattern list) := by
  unfold domainBlock
  split
  · apply Places.bind
    intro segments _
    apply Places.orNoUsableDomain
    intro placement placed
    obtain ⟨domain, _, rfl⟩ := List.mem_map.mp placed
    exact beyondScheme_of_free rfl _
  · split
    · exact .error
    · split
      · exact placeStartForDomains_beyondScheme list _
      · exact .bind fun _ _ => placeForDomains_beyondScheme rfl list _
      · split
        · exact .bind fun _ _ => placeForDomains_beyondScheme rfl list _
        · exact .bind fun _ _ => placeForDomains_beyondScheme rfl list _

theorem plainBlock_beyondScheme (line : Text) (finalLimit : Nat) :
    Places Placement.BeyondScheme (plainBlock line pattern finalLimit) := by
  unfold plainBlock
  split
  · exact placePattern_beyondScheme rfl _ _
  · split
    · exact .error
    · exact placePattern_beyondScheme rfl _ _
  · exact placePattern_beyondScheme rfl _ _

theorem unlimitedBlock_beyondScheme (line rule : Text) (options : Option Text) :
    Places Placement.BeyondScheme (unlimitedBlock line rule pattern options) := by
  unfold unlimitedBlock
  split
  · exact placePattern_beyondScheme rfl _ _
  · split
    · exact placeRegex_beyondScheme rfl _
    · split
      · exact plainBlock_beyondScheme _ line _
      · exact plainBlock_beyondScheme _ line _

theorem blocking_beyondScheme (line : Text) :
    Places Placement.BeyondScheme (blocking line) := by
  dsimp only [blocking]
  cases ['|'].isSuffixOf? (line.dropLead "||".toList) with
  | some pinned => exact placePattern_beyondScheme rfl _ _
  | none =>
    dsimp only
    split
    · exact .error
    · split
      · exact thirdPartyBlock_beyondScheme _ _
      · split
        · exact domainBlock_beyondScheme _ _
        · exact unlimitedBlock_beyondScheme _ line _ _

end Blocks

end Rule

namespace Line

/-- What every exception and every block places, a line places. -/
theorem of_placed {kind : Placement → Prop}
    (exceptions : ∀ rule, Rule.Places kind (Rule.exception rule))
    (blocks : ∀ line, Rule.Places kind (Rule.blocking line)) {line : Text} {placement : Placement}
    (placed : placement ∈ (outcome line).placements) : kind placement := by
  obtain ⟨placements, came, among⟩ := accepted_of_placed placed
  obtain ⟨entry, _, _, _, read⟩ | ⟨_, _, read⟩ := rule_of_outcome came
  · exact exceptions entry placements read.symm placement among
  · exact blocks _ placements read.symm placement among

end Line

namespace Compilation

/-- No entry of the three tables has a scheme alone for its pattern. Any that still matches all URLs
of a scheme does so because its first segment starts the scheme and the others occur in it. -/
theorem beyondScheme_of_compiled (lines : List Text) {table : Table}
    (refuses : table.refusesScheme = true) {entry : Entry}
    (compiled : entry ∈ (ofLines lines).rules.table table) :
    ∃ segments : Segments, entry.body = .segments segments ∧
      (∀ scheme ∈ ["http://", "https://", "http:", "https:"], segments.toText ≠ scheme.toList) ∧
      ∀ scheme : Text, (∀ url, scheme <+: url → occurFromStart segments.toList url = true) ↔
        segments.first <+: scheme ∧ ∀ segment ∈ segments.toList.tail, segment <:+: scheme := by
  have placed := RuleSet.mem_table.mp compiled
  rw [placements_ofLines] at placed
  obtain ⟨line, _, placed⟩ := List.mem_flatMap.mp placed
  obtain ⟨segments, body, beyond⟩ :=
    Line.of_placed Rule.exception_beyondScheme Rule.blocking_beyondScheme placed refuses
  exact ⟨segments, body, beyond, segments.occurFromStart_extensions_iff⟩

/-- A host behind the scheme keeps a pattern from matching all its URLs. -/
theorem beyondScheme_of_compiled_cdn :
    let lines := ["|https://$domain=a.org".toList, "@@|https://cdn.*$domain=a.org".toList]
    let segments : Segments := ⟨["https://cdn.".toList, []], by decide, by decide⟩
    let entry : Entry := ⟨some "a.org".toList, .segments segments⟩
    Table.exceptionDomainInitial.refusesScheme = true ∧
    entry ∈ (ofLines lines).rules.table .exceptionDomainInitial ∧
    ¬ ∀ url, "https://".toList <+: url → occurFromStart segments.toList url = true := by
  intro lines segments entry
  have compiled : entry ∈ (ofLines lines).rules.table .exceptionDomainInitial := by decide +kernel
  refine ⟨rfl, compiled, ?_⟩
  obtain ⟨others, same, _, wide⟩ := beyondScheme_of_compiled lines rfl compiled
  cases Body.segments.inj same
  rw [wide]
  decide

/-- The first letters of a scheme are no scheme, and match all URLs of two. -/
theorem not_beyondScheme_of_compiled :
    ¬ ∀ (lines : List Text) (table : Table), table.refusesScheme = true →
      ∀ entry ∈ (ofLines lines).rules.table table, ∀ segments, entry.body = .segments segments →
        ∀ scheme ∈ ["http://", "https://"],
          ¬ ∀ url, scheme.toList <+: url → occurFromStart segments.toList url = true := by
  intro narrow
  let segments : Segments := ⟨["http".toList], by decide, by decide⟩
  have compiled : ⟨some "a.test".toList, .segments segments⟩ ∈
      (ofLines ["|http$domain=a.test".toList]).rules.table .blockDomainInitial := by decide +kernel
  apply narrow _ _ rfl _ compiled segments rfl "http://" List.mem_cons_self
  exact (segments.occurFromStart_extensions_iff _).mpr ⟨by decide, nofun⟩

end Compilation

end FilterList
