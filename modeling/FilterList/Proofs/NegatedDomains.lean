import FilterList.Proofs.BlockingRules

/-! A block with negated domains. Beside `third-party` it blocks on all pages but those of the
negated domains, whatever others it lists. Without that it blocks nothing at all, and is an
exception on the pages of every domain that it lists. -/

namespace FilterList

theorem WrittenDomain.dropWhile_text (domain : WrittenDomain) :
    domain.text.dropWhile (· == '~') = domain.name := by
  obtain ⟨c, rest, shape, noTilde⟩ := domain.exists_name_cons
  unfold text
  cases domain.negated <;> simp [shape, noTilde]

theorem WrittenDomain.fires_mixedPlacement_iff (domain : WrittenDomain) {pattern : WrittenPattern}
    {segments : Segments} (same : segments.toList = pattern.segments) (request : Request) :
    (domain.mixedPlacement (.segments segments)).fires request = true ↔
      request.isThirdParty = true ∧ domain.Covers request ∧
      pattern.MatchesAt .anywhere request.resource := by
  have fires {table : Table} (anchored : table.anchor = .anywhere)
      (limited : table.scope = ⟨true, true⟩) :
      (Placement.mk table ⟨some domain.name, .segments segments⟩).fires request = true ↔
        request.isThirdParty = true ∧ domain.Covers request ∧
        pattern.MatchesAt .anywhere request.resource := by
    rw [pattern.fires_iff same .anywhere anchored, limited, Request.admits_iff]
    constructor
    · intro ⟨⟨_, party⟩, onPage, found⟩
      exact ⟨party rfl, onPage _ rfl, found⟩
    · intro ⟨party, onPage, found⟩
      obtain ⟨host, known, _⟩ := id onPage
      refine ⟨⟨fun _ => by rw [known]; rfl, fun _ => party⟩, ?_, found⟩
      intro name named
      cases named
      exact onPage
  unfold mixedPlacement
  split
  · exact fires rfl rfl
  · exact fires rfl rfl

namespace WrittenRule
variable {rule : WrittenRule} {segments : Segments}

def Negates (rule : WrittenRule) : Prop := ∃ domain ∈ rule.domains, domain.negated = true

theorem Negates.listed (negates : rule.Negates) : rule.domains ≠ [] := by
  obtain ⟨domain, listed, _⟩ := negates
  exact List.ne_nil_of_mem listed

theorem Negates.limited (negates : rule.Negates) : rule.options ≠ [] := fun none =>
  negates.listed (rule.options_eq_nil_iff.mp none).2

theorem mem_mixedPlacements_iff (negates : rule.Negates) {body : Body} {placement : Placement} :
    placement ∈ rule.mixedPlacements body ↔
      (∃ domain ∈ rule.domains, placement = domain.mixedPlacement body) ∨
      placement = ⟨.blockThirdParty, none, body⟩ := by
  have some : rule.domains.any (·.negated) = true := List.any_eq_true.mpr negates
  unfold mixedPlacements
  rw [some, if_pos rfl, List.mem_append, List.mem_singleton, List.mem_map]
  simp only [eq_comm]

theorem mixed_blocks_iff (negates : rule.Negates)
    (same : segments.toList = rule.pattern.segments) (request : Request) :
    (∃ placement ∈ rule.mixedPlacements (.segments segments),
      placement.table.isException = false ∧ placement.fires request = true) ↔
    request.isThirdParty = true ∧ rule.pattern.MatchesAt .anywhere request.resource := by
  have everywhere :
      (Placement.mk .blockThirdParty ⟨none, .segments segments⟩).fires request = true ↔
        request.isThirdParty = true ∧ rule.pattern.MatchesAt .anywhere request.resource := by
    rw [rule.pattern.fires_iff same .anywhere rfl, Request.admits_iff]
    simp [Table.scope]
  constructor
  · intro ⟨placement, placed, _, fired⟩
    -- The entries of single domains fire on fewer requests, so they do not add to what is blocked.
    obtain ⟨domain, _, rfl⟩ | rfl := (mem_mixedPlacements_iff negates).mp placed
    · obtain ⟨party, _, found⟩ := (domain.fires_mixedPlacement_iff same request).mp fired
      exact ⟨party, found⟩
    · exact everywhere.mp fired
  · intro applies
    exact ⟨_, (mem_mixedPlacements_iff negates).mpr (.inr rfl), rfl, everywhere.mpr applies⟩

theorem mixed_excepts_iff (negates : rule.Negates)
    (same : segments.toList = rule.pattern.segments) (request : Request) :
    (∃ placement ∈ rule.mixedPlacements (.segments segments),
      placement.table.isException = true ∧ placement.fires request = true) ↔
    request.isThirdParty = true ∧
      (∃ domain ∈ rule.domains, domain.negated = true ∧ domain.Covers request) ∧
      rule.pattern.MatchesAt .anywhere request.resource := by
  constructor
  · intro fires
    obtain ⟨placement, placed, excepts, fired⟩ := fires
    obtain ⟨domain, listed, rfl⟩ | rfl := (mem_mixedPlacements_iff negates).mp placed
    · obtain ⟨party, covered, found⟩ := (domain.fires_mixedPlacement_iff same request).mp fired
      cases sign : domain.negated with
      | true => exact ⟨party, ⟨domain, listed, sign, covered⟩, found⟩
      | false =>
        rw [WrittenDomain.mixedPlacement, sign] at excepts
        cases excepts
    · cases excepts
  · intro applies
    obtain ⟨party, ⟨domain, listed, sign, covered⟩, found⟩ := applies
    refine ⟨_, (mem_mixedPlacements_iff negates).mpr (.inl ⟨domain, listed, rfl⟩), ?_,
      (domain.fires_mixedPlacement_iff same request).mpr ⟨party, covered, found⟩⟩
    rw [WrittenDomain.mixedPlacement, if_pos sign]
    rfl

theorem placements_mixed (opens : rule.pattern.OpensBlock) (unpinned : rule.pin = .anywhere)
    (negates : rule.Negates) (party : rule.thirdParty = true)
    (few : rule.pattern.size ≤ maxSegments) :
    ∃ segments : Segments, segments.toList = rule.pattern.segments ∧
      (Compilation.ofLines [rule.text]).rules.placements =
        rule.mixedPlacements (.segments segments) := by
  obtain ⟨segments, same, _, kept⟩ | ⟨many, _⟩ :=
    rule.pattern.segmentsOf_text (Nat.le_refl maxSegments)
  · refine ⟨segments, same, ?_⟩
    rw [Compilation.rules_ofLine, rule.outcome_block opens, blocking_of_options negates.limited,
      if_pos party, thirdPartyBlock_unpinned unpinned negates.listed, kept]
    rfl
  · exact absurd few (Nat.not_le_of_lt many)

theorem isBlocked_mixed_iff (opens : rule.pattern.OpensBlock) (unpinned : rule.pin = .anywhere)
    (negates : rule.Negates) (party : rule.thirdParty = true)
    (few : rule.pattern.size ≤ maxSegments) (request : Request) :
    ((Compilation.ofLines [rule.text]).rules.decide request).isBlocked = true ↔
      request.isThirdParty = true ∧ rule.pattern.MatchesAt .anywhere request.resource ∧
      ¬ ∃ domain ∈ rule.domains, domain.negated = true ∧ domain.Covers request := by
  obtain ⟨segments, same, placed⟩ := placements_mixed opens unpinned negates party few
  rw [RuleSet.isBlocked_decide_iff, RuleSet.blocks_iff, RuleSet.excepts_iff, placed,
    mixed_blocks_iff negates same, mixed_excepts_iff negates same]
  constructor
  · intro blocked
    obtain ⟨⟨party, found⟩, noException⟩ := blocked
    exact ⟨party, found, fun covered => noException ⟨party, covered, found⟩⟩
  · intro applies
    obtain ⟨party, found, noneCovers⟩ := applies
    exact ⟨⟨party, found⟩, fun exempt => noneCovers exempt.2.1⟩

/-- One tilde makes every domain of the list an exception. -/
theorem domainBlock_of_negates (unpinned : rule.pin = .anywhere) (negates : rule.Negates) :
    Rule.domainBlock rule.written rule.domainText = rule.place ⟨.exceptionDomain, 3, false⟩ := by
  have hasTilde : rule.domainText.contains '~' = true := by
    rw [List.contains_eq_mem, decide_eq_true_iff]
    exact tilde_mem_domainText_iff.mpr negates
  have noStars : Rule.dropStars rule.written = rule.pattern.text := by
    have kept := rule.pin.dropStars_write rule.pattern
    rw [unpinned] at kept
    rw [written, unpinned]
    exact kept
  have names : ((rule.domains.map WrittenDomain.text).map (·.dropWhile (· == '~'))).filter
      (!·.isEmpty) = rule.domains.map (·.name) := by
    rw [List.map_map, List.map_congr_left fun domain _ => domain.dropWhile_text]
    apply List.filter_eq_self.mpr
    intro name member
    obtain ⟨domain, _, rfl⟩ := List.mem_map.mp member
    simpa using domain.ne_nil
  have entries (body : Body) :
      Rule.orNoUsableDomain ((rule.domains.map (·.name)).map fun name =>
        Placement.mk .exceptionDomain ⟨some name, body⟩) =
      .ok (rule.placements .exceptionDomain body) := by
    have filled : rule.domains ≠ [] := negates.listed
    rw [Rule.orNoUsableDomain, placements, if_neg filled, List.map_map]
    exact if_neg (by simpa using filled)
  unfold Rule.domainBlock
  simp only [hasTilde, if_true, noStars, rule.domainItems_domainText, names, entries]
  rfl

theorem blocking_of_negates (unpinned : rule.pin = .anywhere) (negates : rule.Negates)
    (party : rule.thirdParty = false) :
    Rule.blocking rule.text = rule.place ⟨.exceptionDomain, 3, false⟩ := by
  rw [blocking_of_options negates.limited, party, if_neg Bool.false_ne_true]
  exact domainBlock_of_negates unpinned negates

theorem suits_exceptionDomain (unpinned : rule.pin = .anywhere) (negates : rule.Negates)
    (party : rule.thirdParty = false) : RuleForm.Suits ⟨.exceptionDomain, 3, false⟩ rule where
  anchor := by
    rw [unpinned]
    rfl
  scope := by
    have listed : rule.domains.isEmpty = false := List.isEmpty_eq_false_iff.mpr negates.listed
    rw [party, listed]
    rfl
  bounded := by decide

theorem outcome_of_negates (opens : rule.pattern.OpensBlock) (unpinned : rule.pin = .anywhere)
    (negates : rule.Negates) (party : rule.thirdParty = false) :
    Line.outcome rule.text = .ofRule (rule.place ⟨.exceptionDomain, 3, false⟩) := by
  rw [rule.outcome_block opens, blocking_of_negates unpinned negates party]

theorem not_isBlocked_of_negates (opens : rule.pattern.OpensBlock) (unpinned : rule.pin = .anywhere)
    (negates : rule.Negates) (party : rule.thirdParty = false) (request : Request) :
    ((Compilation.ofLines [rule.text]).rules.decide request).isBlocked = false := by
  have taken := outcome_of_negates opens unpinned negates party
  have suits := suits_exceptionDomain unpinned negates party
  rw [← Bool.not_eq_true, RuleSet.isBlocked_decide_iff, RuleSet.Blocks,
    exists_hits_iff taken suits (·.isException = false)]
  intro blocked
  obtain ⟨⟨blocks, _⟩, _⟩ := blocked
  cases blocks

theorem isSome_findException_of_negates_iff (opens : rule.pattern.OpensBlock)
    (unpinned : rule.pin = .anywhere) (negates : rule.Negates) (party : rule.thirdParty = false)
    (few : rule.pattern.size ≤ 3) (request : Request) :
    ((Compilation.ofLines [rule.text]).rules.findException request).hit.isSome = true ↔
      (∃ domain ∈ rule.domains, domain.Covers request) ∧
      rule.pattern.MatchesAt .anywhere request.resource := by
  have taken := outcome_of_negates opens unpinned negates party
  have suits := suits_exceptionDomain unpinned negates party
  have fits : rule.Fits ⟨.exceptionDomain, 3, false⟩ :=
    ⟨few, fun refused => Bool.false_ne_true refused.1⟩
  rw [RuleSet.isSome_findException_iff, RuleSet.Excepts,
    exists_hits_iff taken suits (·.isException = true)]
  constructor
  · intro excepts
    obtain ⟨_, _, _, onPage, found⟩ := excepts
    rw [unpinned] at found
    exact ⟨onPage negates.listed, found⟩
  · intro applies
    obtain ⟨onPage, found⟩ := applies
    refine ⟨rfl, fits, fun wanted => ?_, fun _ => onPage, ?_⟩
    · rw [party] at wanted
      cases wanted
    · rw [unpinned]
      exact found

/-- Beside `third-party`, negated domains are all that a block spares, and the other domains make
no difference. Without it nothing is blocked, and all domains are exceptions. -/
theorem negated_domains (rule : WrittenRule) (opens : rule.pattern.OpensBlock)
    (unpinned : rule.pin = .anywhere) (negates : rule.Negates) (page resource : Text) :
    (rule.thirdParty = true → rule.pattern.size ≤ 5 →
      (((Compilation.ofLines [rule.text]).rules.decide (.ofUrls page resource)).isBlocked = true ↔
        (Request.ofUrls page resource).isThirdParty = true ∧
        (∀ segment ∈ rule.pattern.segments, segment <:+: resource) ∧
        ¬ ∃ domain ∈ rule.domains, domain.negated = true ∧ domain.Covers (.ofUrls page resource))) ∧
    (rule.thirdParty = false → rule.pattern.size ≤ 3 →
      ((Compilation.ofLines [rule.text]).rules.decide (.ofUrls page resource)).isBlocked = false ∧
      (((Compilation.ofLines [rule.text]).rules.findException
          (.ofUrls page resource)).hit.isSome = true ↔
        (∃ domain ∈ rule.domains, domain.Covers (.ofUrls page resource)) ∧
        ∀ segment ∈ rule.pattern.segments, segment <:+: resource)) := by
  constructor
  · intro party few
    exact isBlocked_mixed_iff opens unpinned negates party few _
  · intro party few
    exact ⟨not_isBlocked_of_negates opens unpinned negates party _,
      isSome_findException_of_negates_iff opens unpinned negates party few _⟩

/-- A block that spares the pages of one site and lists another. -/
def sparingRule (thirdParty : Bool) : WrittenRule where
  hostMark := false
  pin := .anywhere
  pattern := ⟨["/banner".toList], by decide, by decide⟩
  thirdParty := thirdParty
  domains := [⟨true, "mail.net".toList, by decide, by decide⟩,
    ⟨false, "radio.fm".toList, by decide, by decide⟩]

example : (sparingRule true).text = "/banner$third-party,domain=~mail.net|radio.fm".toList := by
  decide

theorem negated_domains_sparingRule :
    (sparingRule true).pattern.OpensBlock ∧ (sparingRule true).Negates ∧
    ((Compilation.ofLines [(sparingRule true).text]).rules.decide
      (.ofUrls "http://shop.net/".toList "http://ads.net/banner".toList)).isBlocked = true ∧
    ((Compilation.ofLines [(sparingRule false).text]).rules.findException
      (.ofUrls "http://radio.fm/".toList "http://ads.net/banner".toList)).hit.isSome = true := by
  have opens : (sparingRule true).pattern.OpensBlock := by
    unfold WrittenPattern.OpensBlock
    decide
  have negates (thirdParty : Bool) : (sparingRule thirdParty).Negates := ⟨_, .head _, rfl⟩
  have found : ∀ segment ∈ (sparingRule true).pattern.segments,
      segment <:+: "http://ads.net/banner".toList := occurIn_iff.mp (by decide)
  have spared : ¬ ∃ domain ∈ (sparingRule true).domains, domain.negated = true ∧
      domain.Covers (.ofUrls "http://shop.net/".toList "http://ads.net/banner".toList) := by
    intro ⟨domain, listed, sign, host, known, covered⟩
    have there : (Request.ofUrls "http://shop.net/".toList "http://ads.net/banner".toList).pageHost =
      some "shop.net".toList := by decide +kernel
    have apart : Domain.covers "mail.net".toList "shop.net".toList = false := by decide +kernel
    cases there.symm.trans known
    obtain rfl | later := List.mem_cons.mp listed
    · exact absurd (apart.symm.trans covered) Bool.false_ne_true
    · cases List.mem_singleton.mp later
      cases sign
  refine ⟨opens, negates true, ?_, ?_⟩
  · exact ((negated_domains (sparingRule true) opens rfl (negates true) _ _).1 rfl (by decide)).mpr
      ⟨by decide +kernel, found, spared⟩
  · refine ((negated_domains (sparingRule false) opens rfl (negates false) _ _).2 rfl
      (by decide)).2.mpr ⟨?_, found⟩
    exact ⟨_, .tail _ (.head _), "radio.fm".toList, by decide +kernel, by decide +kernel⟩

end WrittenRule

end FilterList
