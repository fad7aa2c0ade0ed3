import FilterList.Proofs.PlacedEntries
import FilterList.Proofs.RuleMeaning

/-! A rule says nothing about requests outside of its limits. Where all rules of a list are for
third-party requests, no rule matches a request of the page's own host, and where all are for pages
of domains, none matches on any other page. -/

namespace FilterList

theorem RuleSet.decide_eq_unmatched {rules : RuleSet} {request : Request}
    (silent : ∀ placement ∈ rules.placements, placement.fires request = false) :
    rules.decide request = .unmatched := by
  have none : rules.inOrder.find? (·.fires request) = none := by
    apply List.find?_eq_none.mpr
    intro placement member
    rw [silent placement (rules.mem_flatMap_placed.mp member).2]
    exact Bool.false_ne_true
  rw [RuleSet.decide, hit_evaluate, none]
  rfl

theorem Request.isThirdParty_eq_false_iff {request : Request} :
    request.isThirdParty = false ↔ request.pageHost = none ∨ request.resourceHost = none ∨
      ∃ page resource, request.pageHost = some page ∧ request.resourceHost = some resource ∧
        Text.caselessEq page resource = true := by
  unfold isThirdParty
  cases request.pageHost <;> cases request.resourceHost <;> simp

namespace Placement
variable {placement : Placement} {request : Request}

theorem not_fires_of_not_thirdParty (limited : placement.table.scope.thirdParty = true)
    (outside : request.isThirdParty = false) : placement.fires request = false := by
  rw [← Bool.not_eq_true]
  intro fires
  have admitted := Request.admits_iff.mp (Bool.and_eq_true_iff.mp fires).1
  rw [admitted.2 limited] at outside
  cases outside

theorem not_fires_of_not_isOn {domain : Text} (limited : placement.entry.domain = some domain)
    (outside : ¬ request.IsOn domain) : placement.fires request = false := by
  rw [← Bool.not_eq_true]
  intro fires
  have onPage := (Bool.and_eq_true_iff.mp (Bool.and_eq_true_iff.mp fires).2).1
  exact outside (Request.isOn_iff.mp onPage domain limited)

end Placement

namespace Line
variable {line : Text} {limits : Rule.Options → Prop}

/-- The rule on the line, if there is one, has no bar at its end and carries options that limit
it so. -/
def LimitedBy (limits : Rule.Options → Prop) (line : Text) : Prop :=
  ∀ rule ∈ rule? line, ¬ ['|'] <:+ rule ∧
    ∃ options ∈ (Rule.splitOptions rule).2, limits (.ofText options)

instance [DecidablePred limits] : Decidable (LimitedBy limits line) :=
  inferInstanceAs (Decidable (∀ rule ∈ rule? line, ¬ ['|'] <:+ rule ∧
    ∃ options ∈ (Rule.splitOptions rule).2, limits (.ofText options)))

/-- The domains that the rule on a line lists, without the tildes before them. -/
def listedDomains (line : Text) : List Text :=
  (((rule? line).bind fun rule => (Rule.Options.ofRule rule).domains).elim [] Rule.domainItems).map
    (·.dropWhile (· == '~'))

theorem LimitedBy.optionsRead (limited : LimitedBy limits line) {rule : Text}
    (found : rule? line = some rule) (marked : Bool) :
    limits (.ofRule rule) ∧ Rule.optionsRead marked rule = .ofRule rule := by
  obtain ⟨noBar, options, given, within⟩ := limited rule found
  refine ⟨?_, ?_⟩
  · rw [Rule.Options.ofRule, Option.mem_def.mp given]
    exact within
  · cases marked with
    | true => rfl
    | false => rw [Rule.optionsRead, Text.isSuffixOf?_eq_none noBar]

theorem LimitedBy.thirdParty (limited : LimitedBy (·.thirdParty = true) line)
    {placement : Placement} (placed : placement ∈ (outcome line).placements) :
    placement.table.scope.thirdParty = true := by
  obtain ⟨rule, found, follows⟩ := follows_of_placed placed
  obtain ⟨party, read⟩ := limited.optionsRead found (isMarked line)
  rw [follows.takes.scope, read]
  exact party

theorem LimitedBy.domain
    (limited : LimitedBy (fun options => options.domains.isSome = true ∧
      options.thirdParty = false) line)
    {placement : Placement} (placed : placement ∈ (outcome line).placements) :
    ∃ domain ∈ listedDomains line, placement.entry.domain = some domain := by
  obtain ⟨rule, found, follows⟩ := follows_of_placed placed
  obtain ⟨⟨given, party⟩, read⟩ := limited.optionsRead found (isMarked line)
  rw [read, party] at follows
  cases named : placement.entry.domain with
  | none =>
    obtain wide | free := follows.limited named
    · cases wide
    · rw [free] at given
      cases given
  | some domain =>
    obtain ⟨list, carried, item, listed, _, _, bare⟩ := follows.listed domain named
    refine ⟨domain, ?_, rfl⟩
    rw [listedDomains, found, Option.bind_some, carried, bare rfl]
    exact List.mem_map.mpr ⟨item, listed, rfl⟩

end Line

namespace Compilation

/-- Limits hold for whole lists. If every rule carries `third-party`, no rule matches a request
that goes to the page's own host or has an unknown host. If every rule carries domains and not
`third-party`, none matches on a page of unknown host or of none of the domains. -/
theorem decide_out_of_scope (lines : List Text) (page resource : Text) :
    ((∀ line ∈ lines, Line.LimitedBy (·.thirdParty = true) line) →
      (Url.host? page = none ∨ Url.host? resource = none ∨ ∃ host other,
        Url.host? page = some host ∧ Url.host? resource = some other ∧
          Text.caselessEq host other = true) →
      (ofLines lines).rules.decide (.ofUrls page resource) = .unmatched) ∧
    ((∀ line ∈ lines, Line.LimitedBy (fun options => options.domains.isSome = true ∧
        options.thirdParty = false) line) →
      (Url.host? page = none ∨ ∀ line ∈ lines, ∀ domain ∈ Line.listedDomains line,
        ∀ host, Url.host? page = some host → Domain.covers domain host = false) →
      (ofLines lines).rules.decide (.ofUrls page resource) = .unmatched) := by
  constructor
  · intro limited firstParty
    have outside : (Request.ofUrls page resource).isThirdParty = false :=
      Request.isThirdParty_eq_false_iff.mpr firstParty
    apply RuleSet.decide_eq_unmatched
    intro placement compiled
    rw [placements_ofLines] at compiled
    obtain ⟨line, among, placed⟩ := List.mem_flatMap.mp compiled
    exact Placement.not_fires_of_not_thirdParty ((limited line among).thirdParty placed) outside
  · intro limited elsewhere
    apply RuleSet.decide_eq_unmatched
    intro placement compiled
    rw [placements_ofLines] at compiled
    obtain ⟨line, among, placed⟩ := List.mem_flatMap.mp compiled
    obtain ⟨domain, listed, named⟩ := (limited line among).domain placed
    apply Placement.not_fires_of_not_isOn named
    intro ⟨host, known, covered⟩
    obtain unknown | apart := elsewhere
    · cases unknown.symm.trans known
    · rw [apart line among domain listed host known] at covered
      cases covered

theorem decide_out_of_scope_of_exceptions :
    let partyRules := ["! ads".toList, "||ads.net^$third-party".toList,
      "@@|http://cdn.$third-party,domain=a.net".toList,
      "/s.js$third-party,domain=~b.net|c.net".toList]
    let domainRules := ["/s.js$domain=~b.net|c.net".toList, "@@/ok.js|$domain=d.net".toList]
    let resource := "http://SHOP.ads.net/s.js".toList
    (∀ line ∈ partyRules, Line.LimitedBy (·.thirdParty = true) line) ∧
    (ofLines partyRules).rules.decide (.ofUrls "http://shop.ads.net/".toList resource) =
      .unmatched ∧
    (∀ line ∈ domainRules, Line.LimitedBy (fun options => options.domains.isSome = true ∧
      options.thirdParty = false) line) ∧
    (ofLines domainRules).rules.decide (.ofUrls "http://e.net/".toList resource) = .unmatched := by
  intro partyRules domainRules resource
  have thirdParty : ∀ line ∈ partyRules, Line.LimitedBy (·.thirdParty = true) line := by
    decide +kernel
  have domains : ∀ line ∈ domainRules, Line.LimitedBy (fun options =>
      options.domains.isSome = true ∧ options.thirdParty = false) line := by
    decide +kernel
  have known : Url.host? "http://e.net/".toList = some "e.net".toList := by decide +kernel
  have apart : ∀ line ∈ domainRules, ∀ domain ∈ Line.listedDomains line,
      Domain.covers domain "e.net".toList = false := by decide +kernel
  refine ⟨thirdParty, ?_, domains, ?_⟩
  · refine (decide_out_of_scope partyRules _ resource).1 thirdParty (.inr (.inr ?_))
    exact ⟨"shop.ads.net".toList, "SHOP.ads.net".toList, by decide +kernel, by decide +kernel,
      by decide +kernel⟩
  · refine (decide_out_of_scope domainRules _ resource).2 domains (.inr ?_)
    intro line among domain listed host found
    cases known.symm.trans found
    exact apart line among domain listed

end Compilation

end FilterList
