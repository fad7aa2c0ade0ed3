import FilterList.Proofs.RuleMeaning

/-! A blocking rule, alone in a list, blocks the requests that it applies to and no others. One that
has too many segments for its form, or pins nothing but a scheme where that is refused, blocks
nothing. -/

namespace FilterList

/-- What comes of one domain of a block of third-party requests. -/
def WrittenDomain.mixedPlacement (body : Body) (domain : WrittenDomain) : Placement :=
  ⟨if domain.negated then .exceptionThirdPartyDomain else .blockThirdPartyDomain,
    some domain.name, body⟩

namespace WrittenRule
variable {rule : WrittenRule} {form : RuleForm}

/-- The table and limit of each form of blocking rule. In a rule for third-party requests a bar at
the end of the pattern pins nothing, so such a rule is of no form. -/
def blockForm? (rule : WrittenRule) : Option RuleForm :=
  match rule.thirdParty, rule.domains.isEmpty, rule.pin with
  | false, true, .anywhere => some ⟨.block, 5, false⟩
  | false, true, .start => some ⟨.blockInitial, 5, false⟩
  | false, true, .stop => some ⟨.blockFinal, 2, false⟩
  | false, false, .anywhere => some ⟨.blockDomain, 3, false⟩
  | false, false, .start => some ⟨.blockDomainInitial, 5, true⟩
  | false, false, .stop => some ⟨.blockDomainFinal, 5, false⟩
  | true, true, .anywhere => some ⟨.blockThirdParty, 4, false⟩
  | true, true, .start => some ⟨.blockThirdPartyInitial, 5, false⟩
  | true, false, .anywhere => some ⟨.blockThirdPartyDomain, 5, false⟩
  | true, false, .start => some ⟨.blockThirdPartyDomainInitial, 5, true⟩
  | true, _, .stop => none

theorem suits_of_blockForm? (known : rule.blockForm? = some form) :
    form.Suits rule ∧ form.table.isException = false := by
  unfold blockForm? at known
  -- One case for each line of the table, of which the last is for rules of no form.
  split at known
  case h_11 => cases known
  all_goals
    next party everywhere pinned =>
    cases known
    exact ⟨⟨by rw [pinned]; rfl, by rw [party, everywhere]; rfl, by decide⟩, rfl⟩

theorem blocking_of_options (limited : rule.options ≠ []) :
    Rule.blocking rule.text =
      if rule.thirdParty then Rule.thirdPartyBlock rule.written rule.domainText?
      else Rule.domainBlock rule.written rule.domainText := by
  have unmarked : rule.written.dropLead "||".toList = rule.written :=
    rule.pin.dropLead_write rule.pattern
  simp only [Rule.blocking, rule.dropLead_text, rule.isSuffixOf?_body, if_neg limited,
    rule.splitOptions_body, rule.ofText_optionText?, unmarked, Bool.false_eq_true, if_false]
  cases party : rule.thirdParty with
  | true => rfl
  | false =>
    have listed : rule.domains ≠ [] := rule.domains_ne_nil limited party
    rw [domainText?_of_listed listed]

theorem blocking_of_no_options (unlimited : rule.options = []) :
    Rule.blocking rule.text =
      if rule.pin = .stop then Rule.placePattern .blockFinal rule.pattern.text 2
      else Rule.plainBlock rule.text rule.written maxSegments := by
  have noOptions : rule.optionText? = none := if_pos unlimited
  have whole : rule.body = rule.written := rule.body_of_no_options unlimited
  have cut : Rule.splitOptions rule.written = (rule.written, none) := by
    have split := rule.splitOptions_body
    rwa [whole, noOptions] at split
  have suffix := rule.isSuffixOf?_body
  rw [whole, if_pos unlimited] at suffix
  have noEscape : rule.written.contains '\\' = false := rule.not_contains_written (by decide)
  have noStars : (rule.written.dropLead ['*']).dropTail ['*'] = rule.written := by
    rw [written, rule.pin.dropLead_star_write, rule.pin.dropTail_star_write]
  have unmarked : rule.pattern.text.dropLead "||".toList = rule.pattern.text :=
    Pin.anywhere.dropLead_write rule.pattern
  simp only [Rule.blocking, rule.dropLead_text, whole, suffix]
  by_cases pinned : rule.pin = .stop
  · simp only [if_pos pinned, unmarked]
  · simp only [if_neg pinned, cut, Option.map_none, Option.getD_none, Rule.unlimitedBlock,
      noEscape, noStars, Option.isSome_none, Bool.false_and, Bool.false_eq_true, if_false]

/-- A negated domain is exempt from a block on all pages, which then stands beside those on the
other domains. -/
def mixedPlacements (rule : WrittenRule) (body : Body) : List Placement :=
  rule.domains.map (·.mixedPlacement body) ++
    if rule.domains.any (·.negated) then [⟨.blockThirdParty, none, body⟩] else []

theorem mixedThirdParty_text (listed : rule.domains ≠ []) :
    Rule.mixedThirdParty rule.pattern.text rule.domainText =
      return rule.mixedPlacements
        (.segments (← Rule.segmentsOf rule.pattern.text maxSegments)) := by
  have limited (body : Body) :
      ((rule.domains.map WrittenDomain.text).filterMap fun domain =>
        if Rule.isNegated domain then
          (Rule.exempt? domain).map fun exempt =>
            Placement.mk .exceptionThirdPartyDomain ⟨some exempt, body⟩
        else some ⟨.blockThirdPartyDomain, some domain, body⟩) =
      rule.domains.map (·.mixedPlacement body) := by
    rw [List.filterMap_map, ← List.filterMap_eq_map]
    apply List.filterMap_congr
    intro domain _
    rw [Function.comp_apply, Function.comp_apply, domain.isNegated_text, domain.exempt?_text]
    cases sign : domain.negated with
    | true => simp [WrittenDomain.mixedPlacement, sign]
    | false => simp [WrittenDomain.mixedPlacement, domain.text_of_not_negated sign, sign]
  have everywhere : ((rule.domains.map WrittenDomain.text).any fun domain =>
      (Rule.exempt? domain).isSome) = rule.domains.any (·.negated) := by
    rw [List.any_map]
    congr 1
    funext domain
    rw [Function.comp_apply, domain.exempt?_text]
    cases domain.negated <;> rfl
  have filled (body : Body) : (rule.mixedPlacements body).isEmpty = false := by
    simp [mixedPlacements, listed]
  unfold Rule.mixedThirdParty
  simp only [rule.domainItems_domainText, limited, everywhere]
  -- A written list is never without a usable domain.
  cases Rule.segmentsOf rule.pattern.text maxSegments with
  | error reason => rfl
  | ok segments => exact if_neg (Bool.eq_false_iff.mp (filled (.segments segments)))

theorem thirdPartyBlock_unpinned (unpinned : rule.pin = .anywhere) (listed : rule.domains ≠ []) :
    Rule.thirdPartyBlock rule.written rule.domainText? =
      return rule.mixedPlacements
        (.segments (← Rule.segmentsOf rule.pattern.text maxSegments)) := by
  have noEscape : rule.written.contains '\\' = false := rule.not_contains_written (by decide)
  have unmarked : rule.written = rule.pattern.text := by
    rw [written, unpinned]
    rfl
  unfold Rule.thirdPartyBlock
  rw [rule.isPrefixOf?_written, noEscape, unpinned, domainText?_of_listed listed, unmarked]
  exact mixedThirdParty_text listed

theorem mixedPlacements_of_negatesNone (listed : rule.domains ≠ []) (positive : rule.NegatesNone)
    (body : Body) : rule.mixedPlacements body = rule.placements .blockThirdPartyDomain body := by
  have noneNegated : rule.domains.any (·.negated) = false := by
    rw [List.any_eq_false]
    intro domain among
    rw [positive domain among]
    exact Bool.false_ne_true
  rw [mixedPlacements, placements, noneNegated, if_neg Bool.false_ne_true, List.append_nil,
    if_neg listed]
  apply List.map_congr_left
  intro domain among
  rw [WrittenDomain.mixedPlacement, positive domain among, if_neg Bool.false_ne_true]

theorem thirdPartyBlock_everywhere (everywhere : rule.domains = [])
    (party : rule.thirdParty = true) (known : rule.blockForm? = some form) :
    Rule.thirdPartyBlock rule.written none = rule.place form := by
  have noEscape : rule.written.contains '\\' = false := rule.not_contains_written (by decide)
  have noStars : Rule.dropStars rule.written = rule.written :=
    rule.pin.dropStars_write rule.pattern
  rw [blockForm?, party, everywhere] at known
  unfold Rule.thirdPartyBlock
  rw [rule.isPrefixOf?_written, noEscape, noStars]
  cases pinned : rule.pin with
  | anywhere =>
    rw [pinned] at known
    cases known
    rw [written, pinned]
    exact placePattern_text everywhere .blockThirdParty 4
  | start =>
    rw [pinned] at known
    cases known
    exact placePattern_text everywhere .blockThirdPartyInitial maxSegments
  | stop =>
    rw [pinned] at known
    cases known

theorem thirdPartyBlock_for_domains (listed : rule.domains ≠ []) (positive : rule.NegatesNone)
    (party : rule.thirdParty = true) (known : rule.blockForm? = some form) :
    Rule.thirdPartyBlock rule.written rule.domainText? = rule.place form := by
  have some : rule.domains.isEmpty = false := List.isEmpty_eq_false_iff.mpr listed
  rw [blockForm?, party, some] at known
  cases pinned : rule.pin with
  | anywhere =>
    rw [pinned] at known
    cases known
    rw [thirdPartyBlock_unpinned pinned listed]
    simp only [mixedPlacements_of_negatesNone listed positive]
    rfl
  | start =>
    rw [pinned] at known
    cases known
    unfold Rule.thirdPartyBlock
    rw [rule.isPrefixOf?_written, pinned, domainText?_of_listed listed]
    exact placeStartForDomains_text listed positive .blockThirdPartyDomainInitial
  | stop =>
    rw [pinned] at known
    cases known

theorem thirdPartyBlock_written (positive : rule.NegatesNone) (party : rule.thirdParty = true)
    (known : rule.blockForm? = some form) :
    Rule.thirdPartyBlock rule.written rule.domainText? = rule.place form := by
  by_cases everywhere : rule.domains = []
  · rw [domainText?, if_pos everywhere]
    exact thirdPartyBlock_everywhere everywhere party known
  · exact thirdPartyBlock_for_domains everywhere positive party known

theorem tilde_mem_domainText_iff :
    '~' ∈ rule.domainText ↔ ∃ domain ∈ rule.domains, domain.negated = true := by
  constructor
  · intro member
    obtain bar | ⟨part, among, inside⟩ := Text.mem_join member
    · exact absurd (List.mem_singleton.mp bar) (by decide)
    · obtain ⟨domain, listed, rfl⟩ := List.mem_map.mp among
      cases sign : domain.negated with
      | true => exact ⟨domain, listed, sign⟩
      | false =>
        rw [domain.text_of_not_negated sign] at inside
        exact absurd (List.all_eq_true.mp domain.literal _ inside) (by decide)
  · intro ⟨domain, listed, sign⟩
    apply Text.mem_join_of_mem (List.mem_map_of_mem listed)
    rw [WrittenDomain.text, if_pos sign]
    exact List.mem_cons_self

theorem domainBlock_written (positive : rule.NegatesNone) (party : rule.thirdParty = false)
    (listed : rule.domains ≠ []) (known : rule.blockForm? = some form) :
    Rule.domainBlock rule.written rule.domainText = rule.place form := by
  have noTilde : rule.domainText.contains '~' = false := by
    rw [List.contains_eq_mem, decide_eq_false_iff_not, tilde_mem_domainText_iff]
    intro ⟨domain, listed, negated⟩
    rw [positive domain listed] at negated
    cases negated
  have noEscape : rule.written.contains '\\' = false := rule.not_contains_written (by decide)
  have filled : rule.written.isEmpty = false := by simpa using rule.written_ne_nil
  have some : rule.domains.isEmpty = false := List.isEmpty_eq_false_iff.mpr listed
  rw [blockForm?, party, some] at known
  rw [Rule.domainBlock, noTilde, filled, rule.isPrefixOf?_written, rule.isSuffixOf?_written,
    noEscape]
  cases pinned : rule.pin with
  | anywhere =>
    rw [pinned] at known
    cases known
    rw [written, pinned]
    exact placeForDomains_segments listed positive .blockDomain 3
  | start =>
    rw [pinned] at known
    cases known
    exact placeStartForDomains_text listed positive .blockDomainInitial
  | stop =>
    rw [pinned] at known
    cases known
    exact placeForDomains_segments listed positive .blockDomainFinal maxSegments

theorem plainBlock_written (unlimited : rule.options = []) (unpinned : rule.pin ≠ .stop)
    (known : rule.blockForm? = some form) :
    Rule.plainBlock rule.text rule.written maxSegments = rule.place form := by
  obtain ⟨party, everywhere⟩ := rule.options_eq_nil_iff.mp unlimited
  rw [blockForm?, party, everywhere] at known
  rw [Rule.plainBlock, rule.isPrefixOf?_written, rule.isSuffixOf?_written]
  cases pinned : rule.pin with
  | anywhere =>
    rw [pinned] at known
    cases known
    rw [written, pinned]
    exact placePattern_text everywhere .block maxSegments
  | start =>
    rw [pinned] at known
    cases known
    exact placePattern_text everywhere .blockInitial maxSegments
  | stop =>
    rw [pinned] at known
    cases known
    exact absurd pinned unpinned

theorem blocking_text (positive : rule.NegatesNone) (known : rule.blockForm? = some form) :
    Rule.blocking rule.text = rule.place form := by
  by_cases unlimited : rule.options = []
  · rw [blocking_of_no_options unlimited]
    split
    next pinned =>
      obtain ⟨party, everywhere⟩ := rule.options_eq_nil_iff.mp unlimited
      rw [blockForm?, party, everywhere, pinned] at known
      cases known
      exact placePattern_text everywhere .blockFinal 2
    next unpinned => exact plainBlock_written unlimited unpinned known
  · rw [blocking_of_options unlimited]
    split
    next party => exact thirdPartyBlock_written positive party known
    next party =>
      have party : rule.thirdParty = false := Bool.eq_false_iff.mpr party
      have listed : rule.domains ≠ [] := rule.domains_ne_nil unlimited party
      exact domainBlock_written positive party listed known

/-- A blocking rule alone in a list blocks the requests it applies to, if it fits its form, and
otherwise is dropped. -/
theorem isBlocked_iff_applies (rule : WrittenRule) (form : RuleForm)
    (opens : rule.pattern.OpensBlock) (positive : rule.NegatesNone)
    (known : rule.blockForm? = some form) (page resource : Text) :
    (((Compilation.ofLines [rule.text]).rules.decide (.ofUrls page resource)).isBlocked = true ↔
      rule.Fits form ∧ rule.Applies (.ofUrls page resource)) ∧
    (¬ rule.Fits form → (Compilation.ofLines [rule.text]).tally.dropped = 1 ∧
      (Compilation.ofLines [rule.text]).rules.size = 0) := by
  obtain ⟨suits, blocks⟩ := suits_of_blockForm? known
  have taken : Line.outcome rule.text = .ofRule (rule.place form) := by
    rw [rule.outcome_block opens, blocking_text positive known]
  refine ⟨?_, dropped_of_not_fits taken suits⟩
  rw [RuleSet.isBlocked_decide_iff, RuleSet.Blocks, RuleSet.Excepts,
    exists_hits_iff taken suits (·.isException = false),
    exists_hits_iff taken suits (·.isException = true), blocks]
  simp

/-- A block of third-party requests on the pages of two sites. -/
def pixelRule : WrittenRule where
  hostMark := true
  pin := .anywhere
  pattern := ⟨["ads.".toList, "/pixel".toList], by decide, by decide⟩
  thirdParty := true
  domains := [⟨false, "news.com".toList, by decide, by decide⟩,
    ⟨false, "blog.org".toList, by decide, by decide⟩]

example : pixelRule.text = "||ads.*/pixel$third-party,domain=news.com|blog.org".toList := by decide

theorem isBlocked_pixelRule :
    pixelRule.pattern.OpensBlock ∧ pixelRule.NegatesNone ∧
    pixelRule.blockForm? = some ⟨.blockThirdPartyDomain, 5, false⟩ ∧
    ((Compilation.ofLines [pixelRule.text]).rules.decide
      (.ofUrls "http://blog.org/".toList "http://ads.net/pixel".toList)).isBlocked = true := by
  have opens : pixelRule.pattern.OpensBlock := by
    unfold WrittenPattern.OpensBlock
    decide
  have positive : pixelRule.NegatesNone := by
    unfold NegatesNone
    decide
  have fits : pixelRule.Fits ⟨.blockThirdPartyDomain, 5, false⟩ :=
    ⟨by decide, fun wide => Bool.false_ne_true wide.1⟩
  have applies : pixelRule.Applies
      (.ofUrls "http://blog.org/".toList "http://ads.net/pixel".toList) := by
    refine ⟨fun _ => by decide +kernel, fun _ => ?_, occurIn_iff.mp (by decide)⟩
    exact ⟨_, .tail _ (.head _), "blog.org".toList, by decide +kernel, by decide +kernel⟩
  exact ⟨opens, positive, rfl,
    (isBlocked_iff_applies pixelRule _ opens positive rfl _ _).1.mpr ⟨fits, applies⟩⟩

end WrittenRule

end FilterList
