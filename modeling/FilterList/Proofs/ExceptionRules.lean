import FilterList.Proofs.PlacedEntries
import FilterList.Proofs.RuleMeaning

/-! An exception rule, alone in a list, fires on the requests that it applies to and no others, and
places nothing that could block. -/

namespace FilterList

namespace WrittenRule
variable {rule : WrittenRule} {form : RuleForm}

/-- The table and limit of each form of exception. A bar before the pattern counts only beside
domains, and one after it only in a rule for all requests. -/
def exceptionForm? (rule : WrittenRule) : Option RuleForm :=
  match rule.thirdParty, rule.domains.isEmpty, rule.pin with
  | false, true, .anywhere => some ⟨.exception, 3, false⟩
  | false, true, .stop => some ⟨.exceptionFinal, 2, false⟩
  | false, false, .anywhere => some ⟨.exceptionDomain, 4, false⟩
  | false, false, .start => some ⟨.exceptionDomainInitial, 5, true⟩
  | false, false, .stop => some ⟨.exceptionDomainFinal, 5, false⟩
  | true, true, .anywhere => some ⟨.exceptionThirdParty, 5, false⟩
  | true, false, .anywhere => some ⟨.exceptionThirdPartyDomain, 5, false⟩
  | true, false, .start => some ⟨.exceptionThirdPartyDomainInitial, 5, false⟩
  | _, _, _ => none

theorem suits_of_exceptionForm? (known : rule.exceptionForm? = some form) :
    form.Suits rule ∧ form.table.isException = true := by
  unfold exceptionForm? at known
  split at known
  case h_9 => cases known
  all_goals
    next party everywhere pinned =>
    cases known
    exact ⟨⟨by rw [pinned]; rfl, by rw [party, everywhere]; rfl, by decide⟩, rfl⟩

theorem thirdPartyException_written (positive : rule.NegatesNone) (party : rule.thirdParty = true)
    (known : rule.exceptionForm? = some form) :
    Rule.thirdPartyException rule.written rule.domainText? = rule.place form := by
  by_cases everywhere : rule.domains = []
  · rw [exceptionForm?, party, everywhere] at known
    rw [domainText?, if_pos everywhere]
    cases pinned : rule.pin with
    | anywhere =>
      rw [pinned] at known
      cases known
      rw [written, pinned]
      exact placePattern_text everywhere .exceptionThirdParty maxSegments
    | start =>
      rw [pinned] at known
      cases known
    | stop =>
      rw [pinned] at known
      cases known
  · have listed : rule.domains.isEmpty = false := List.isEmpty_eq_false_iff.mpr everywhere
    rw [exceptionForm?, party, listed] at known
    rw [domainText?_of_listed everywhere, Rule.thirdPartyException, rule.isPrefixOf?_written]
    cases pinned : rule.pin with
    | anywhere =>
      rw [pinned] at known
      cases known
      rw [written, pinned]
      exact placeForDomains_segments everywhere positive .exceptionThirdPartyDomain maxSegments
    | start =>
      rw [pinned] at known
      cases known
      exact placeForDomains_segments everywhere positive .exceptionThirdPartyDomainInitial
        maxSegments
    | stop =>
      rw [pinned] at known
      cases known

theorem domainException_written (positive : rule.NegatesNone) (party : rule.thirdParty = false)
    (listed : rule.domains ≠ []) (known : rule.exceptionForm? = some form) :
    Rule.domainException rule.written rule.domainText = rule.place form := by
  have noneNegated : (Rule.domainItems rule.domainText).any Rule.isNegated = false := by
    rw [rule.domainItems_domainText, List.any_map, List.any_eq_false]
    intro domain among
    rw [Function.comp_apply, domain.isNegated_text, positive domain among]
    exact Bool.false_ne_true
  have some : rule.domains.isEmpty = false := List.isEmpty_eq_false_iff.mpr listed
  rw [exceptionForm?, party, some] at known
  rw [Rule.domainException, rule.isPrefixOf?_written, rule.isSuffixOf?_written, noneNegated]
  cases pinned : rule.pin with
  | anywhere =>
    rw [pinned] at known
    cases known
    rw [written, pinned]
    exact placeForDomains_segments listed positive .exceptionDomain 4
  | start =>
    rw [pinned] at known
    cases known
    exact placeStartForDomains_text listed positive .exceptionDomainInitial
  | stop =>
    rw [pinned] at known
    cases known
    exact placeForDomains_segments listed positive .exceptionDomainFinal maxSegments

theorem exception_of_options (limited : rule.options ≠ []) :
    Rule.exception rule.text =
      if rule.thirdParty then Rule.thirdPartyException rule.written rule.domainText?
      else Rule.domainException rule.written rule.domainText := by
  have given : rule.optionText? = some (Text.join [','] rule.options) := if_neg limited
  have read := rule.ofText_optionText?
  rw [given, Option.map_some, Option.getD_some] at read
  simp only [Rule.exception, rule.dropLead_text, rule.splitOptions_body, given, read,
    Bool.false_eq_true, if_false]
  cases party : rule.thirdParty with
  | true => rfl
  | false =>
    have listed : rule.domains ≠ [] := rule.domains_ne_nil limited party
    rw [domainText?_of_listed listed]

theorem exception_of_no_options (unlimited : rule.options = []) :
    Rule.exception rule.text =
      if rule.pin = .stop then Rule.placePattern .exceptionFinal rule.pattern.text 2
      else Rule.placePattern .exception rule.written 3 := by
  have noOptions : rule.optionText? = none := if_pos unlimited
  simp only [Rule.exception, rule.dropLead_text, rule.splitOptions_body, noOptions]
  rw [rule.body_of_no_options unlimited, rule.isSuffixOf?_written]
  by_cases pinned : rule.pin = .stop
  · rw [if_pos pinned, if_pos pinned]
  · rw [if_neg pinned, if_neg pinned]

theorem exception_text (positive : rule.NegatesNone) (known : rule.exceptionForm? = some form) :
    Rule.exception rule.text = rule.place form := by
  by_cases unlimited : rule.options = []
  · obtain ⟨party, everywhere⟩ := rule.options_eq_nil_iff.mp unlimited
    rw [exceptionForm?, party, everywhere] at known
    rw [exception_of_no_options unlimited]
    cases pinned : rule.pin with
    | anywhere =>
      rw [pinned] at known
      cases known
      rw [written, pinned]
      exact placePattern_text everywhere .exception 3
    | start =>
      rw [pinned] at known
      cases known
    | stop =>
      rw [pinned] at known
      cases known
      exact placePattern_text everywhere .exceptionFinal 2
  · rw [exception_of_options unlimited]
    split
    next party => exact thirdPartyException_written positive party known
    next party =>
      have party : rule.thirdParty = false := Bool.eq_false_iff.mpr party
      have listed : rule.domains ≠ [] := rule.domains_ne_nil unlimited party
      exact domainException_written positive party listed known

/-- An exception alone in a list fires on the requests it applies to, if it fits its form, and
otherwise is dropped. It places no entry that could block. -/
theorem exception_fires_iff_applies (rule : WrittenRule) (form : RuleForm)
    (positive : rule.NegatesNone) (known : rule.exceptionForm? = some form) :
    (∀ placement ∈ (Compilation.ofLines [rule.exceptionText]).rules.placements,
      placement.table.isException = true) ∧
    (∀ page resource, ((Compilation.ofLines [rule.exceptionText]).rules.findException
        (.ofUrls page resource)).hit.isSome = true ↔
      rule.Fits form ∧ rule.Applies (.ofUrls page resource)) ∧
    (¬ rule.Fits form → (Compilation.ofLines [rule.exceptionText]).tally.dropped = 1 ∧
      (Compilation.ofLines [rule.exceptionText]).rules.size = 0) := by
  obtain ⟨suits, excepts⟩ := suits_of_exceptionForm? known
  have taken : Line.outcome rule.exceptionText = .ofRule (rule.place form) := by
    rw [rule.outcome_exceptionText, exception_text positive known]
  refine ⟨?_, ?_, dropped_of_not_fits taken suits⟩
  · intro placement placed
    rw [Compilation.rules_ofLine] at placed
    refine Line.isException_of_marked ?_ placed
    rw [rule.content_exceptionText]
    exact List.prefix_append _ _
  · intro page resource
    rw [RuleSet.isSome_findException_iff, RuleSet.Excepts,
      exists_hits_iff taken suits (·.isException = true)]
    exact and_iff_right excepts

/-- Third-party requests to a start of URLs, let through on the pages of one site. -/
def playerRule : WrittenRule where
  hostMark := false
  pin := .start
  pattern := ⟨["http://cdn.".toList, "/player".toList], by decide, by decide⟩
  thirdParty := true
  domains := [⟨false, "film.org".toList, by decide, by decide⟩]

example : playerRule.exceptionText =
    "@@|http://cdn.*/player$third-party,domain=film.org".toList := by decide

theorem exception_fires_playerRule :
    playerRule.NegatesNone ∧
    playerRule.exceptionForm? = some ⟨.exceptionThirdPartyDomainInitial, 5, false⟩ ∧
    ((Compilation.ofLines [playerRule.exceptionText]).rules.findException (.ofUrls
      "http://film.org/".toList "http://cdn.net/player".toList)).hit.isSome = true := by
  have positive : playerRule.NegatesNone := by
    unfold NegatesNone
    decide
  have fits : playerRule.Fits ⟨.exceptionThirdPartyDomainInitial, 5, false⟩ :=
    ⟨by decide, fun wide => Bool.false_ne_true wide.1⟩
  have applies : playerRule.Applies
      (.ofUrls "http://film.org/".toList "http://cdn.net/player".toList) := by
    refine ⟨fun _ => by decide +kernel, fun _ => ?_, (occurFromStart_iff (by decide)).mp (by decide)⟩
    exact ⟨_, .head _, "film.org".toList, by decide +kernel, by decide +kernel⟩
  exact ⟨positive, rfl,
    ((exception_fires_iff_applies playerRule _ positive rfl).2.1 _ _).mpr ⟨fits, applies⟩⟩

end WrittenRule

end FilterList
