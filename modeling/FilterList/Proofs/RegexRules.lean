import FilterList.Proofs.BlockingRules
import FilterList.Proofs.PlacedEntries

/-! Rules whose pattern is a regular expression between slashes. A backslash in its source is what
tells it from an address, and the source may hold all that means something in other rules: stars,
bars, tildes, slashes and dollar signs. With options a rule is cut at the last dollar sign behind a
slash, so its source is read back whole. Without them the same cut is made wherever the source has
such a pair of its own. -/

namespace FilterList

namespace Rule

/-- A rule that opens with a slash has no mark or bar before it. -/
theorem blocking_of_slash {rule pattern : Text} {optionText : Option Text}
    (opens : rule.head? = some '/') (unpinned : ['|'].isSuffixOf? rule = none)
    (cut : splitOptions rule = (pattern, optionText)) (patternOpens : pattern.head? = some '/') :
    blocking rule =
      let options := (optionText.map Options.ofText).getD {}
      if options.notThirdParty then .error .notThirdParty
      else if options.thirdParty then thirdPartyBlock pattern options.domains
      else options.domains.elim (unlimitedBlock rule rule pattern optionText)
        (domainBlock pattern) := by
  have unmarked {text : Text} (opens : text.head? = some '/') :
      text.dropLead "||".toList = text := by
    obtain ⟨rest, rfl⟩ := List.head?_eq_some_iff.mp opens
    exact Text.dropLead_eq_self (by simp)
  simp only [blocking, unmarked opens, unmarked patternOpens, unpinned, cut]
  cases ((optionText.map Options.ofText).getD {}).domains <;> rfl

theorem eq_of_placeRegex {table : Table} {pattern : Text} {placements : List Placement}
    (kept : placeRegex table pattern = .ok placements) :
    placements = [⟨table, none, .regex (.ofSource (regexSource pattern))⟩] := by
  unfold placeRegex regexOf at kept
  dsimp only at kept
  split at kept
  · cases kept
  · exact (Except.ok.inj kept).symm

/-- With a backslash in the rule, what blocks all requests by a regular expression is its pattern. -/
theorem eq_of_unlimitedBlock {line rule pattern : Text} {options : Option Text}
    {expression : UrlPattern} (escaped : rule.contains '\\' = true)
    (kept : unlimitedBlock line rule pattern options =
      .ok [⟨.blockRegex, none, .regex expression⟩]) :
    expression = .ofSource (regexSource pattern) := by
  unfold unlimitedBlock at kept
  rw [if_pos escaped] at kept
  split at kept
  · obtain ⟨segments, same, _⟩ := eq_of_placePattern kept
    cases same
  · have same := List.singleton_inj.mp (eq_of_placeRegex kept)
    exact Body.regex.inj (congrArg (·.entry.body) same)

end Rule

/-- The source of a regular expression that a rule has between slashes. The line that starts so is
no cosmetic one and loses nothing of the source. -/
structure WrittenRegex where
  source : Text
  escaped : '\\' ∈ source
  noCaret : '^' ∉ source
  unhiding : ∀ mark ∈ ["##".toList, "#@#".toList, "#?#".toList], ¬ mark <:+: source

namespace WrittenRegex
variable (regex : WrittenRegex)

def text : Text := '/' :: regex.source ++ ['/']

def pattern : UrlPattern := .ofSource regex.source

/-- The entry for all requests. -/
def placement : Placement := ⟨.blockRegex, none, .regex regex.pattern⟩

theorem contains_text : regex.text.contains '\\' = true := by
  simp [text, regex.escaped]

theorem isPrefixOf?_text : ['|'].isPrefixOf? regex.text = none :=
  Text.isPrefixOf?_singleton_cons (by decide) _

theorem isSuffixOf?_text : ['|'].isSuffixOf? regex.text = none :=
  Text.isSuffixOf?_singleton_concat (by decide) _

theorem regexOf_text : Rule.regexOf regex.text = .ok regex.pattern := by
  have filled : regex.source.isEmpty = false :=
    List.isEmpty_eq_false_iff.mpr (List.ne_nil_of_mem regex.escaped)
  simp only [Rule.regexOf, text, Rule.regexSource_slashes, filled, Bool.false_eq_true, if_false,
    pattern]

theorem content_append {tail : Text} (plain : ∀ c ∈ tail, isWritten c = true) :
    Line.content (regex.text ++ tail) = regex.text ++ tail := by
  have solid : Text.SolidAtEnds (regex.text ++ tail) := by
    refine ⟨?_, ?_⟩
    · rintro c ⟨⟩
      decide
    · intro c last
      rw [Option.mem_def, List.getLast?_append] at last
      cases ends : tail.getLast? with
      | some d =>
        obtain rfl : d = c := by simpa [ends] using last
        exact not_isBlank_of_isWritten (plain d (List.mem_of_getLast? ends))
      | none =>
        rw [ends, text, List.getLast?_concat] at last
        cases last
        decide
  apply Line.content_eq_self solid
  intro caret
  obtain inRegex | inTail := List.mem_append.mp caret
  · simp [text, regex.noCaret] at inRegex
  · exact absurd (plain _ inTail) (by decide)

theorem not_occurs_append {tail mark : Text} (plain : ∀ c ∈ tail, isWritten c = true)
    (among : mark ∈ ["##".toList, "#@#".toList, "#?#".toList]) :
    Text.occurs mark (regex.text ++ tail) = false := by
  have shape : ∀ mark ∈ ["##".toList, "#@#".toList, "#?#".toList], '#' ∈ mark ∧ '/' ∉ mark := by
    decide
  obtain ⟨hash, noSlash⟩ := shape mark among
  have split : regex.text ++ tail = [] ++ '/' :: (regex.source ++ '/' :: tail) := by simp [text]
  rw [← Bool.not_eq_true, Text.occurs_iff_isInfix, split]
  intro inside
  obtain before | behind := Text.infix_of_infix_append_cons noSlash inside
  · exact absurd (before.subset hash) List.not_mem_nil
  · obtain inSource | inTail := Text.infix_of_infix_append_cons noSlash behind
    · exact regex.unhiding mark among inSource
    · exact absurd (plain _ (inTail.subset hash)) (by decide)

/-- A line that starts with the regular expression is a rule, and no exception. -/
theorem outcome_append {tail : Text} (plain : ∀ c ∈ tail, isWritten c = true) :
    Line.outcome (regex.text ++ tail) = .ofRule (Rule.blocking (regex.text ++ tail)) := by
  have opens : (regex.text ++ tail).head? = some '/' := rfl
  have noCosmetic : Line.isCosmetic (regex.text ++ tail) = false := by
    rw [Line.isCosmetic, opens, regex.not_occurs_append plain (.head _),
      regex.not_occurs_append plain (.tail _ (.head _)),
      regex.not_occurs_append plain (.tail _ (.tail _ (.head _)))]
    rfl
  have noComment : Line.isComment (regex.text ++ tail) = false := by simp [Line.isComment, opens]
  have noException : "@@".toList.isPrefixOf? (regex.text ++ tail) = none :=
    Text.isPrefixOf?_eq_none (by simp [text])
  rw [Line.outcome, regex.content_append plain, Line.outcomeOf, noCosmetic, noComment, noException]
  rfl

theorem outcome_text : Line.outcome regex.text = .ofRule (Rule.blocking regex.text) := by
  rw [← List.append_nil regex.text]
  exact regex.outcome_append nofun

theorem splitOptions_append {options : Text} (free : ¬ "/$".toList <:+: options) :
    Rule.splitOptions (regex.text ++ '$' :: options) = (regex.text, some options) := by
  have shape : regex.text ++ '$' :: options = '/' :: regex.source ++ '/' :: '$' :: options := by
    simp [text]
  rw [shape, Rule.splitOptions_slashes (List.mem_append_left _ regex.escaped) free, text]

theorem splitOptions_text_of_slash_dollar {body rest : Text}
    (source : regex.source = body ++ '/' :: '$' :: rest) (last : ¬ "/$".toList <:+: rest) :
    Rule.splitOptions regex.text = ('/' :: body ++ ['/'], some (rest ++ ['/'])) := by
  have shape : regex.text = '/' :: body ++ '/' :: '$' :: (rest ++ ['/']) := by simp [text, source]
  have escaped : '\\' ∈ body ++ (rest ++ ['/']) := by
    have inSource := regex.escaped
    rw [source] at inSource
    simpa using inSource
  rw [shape, Rule.splitOptions_slashes escaped ((Rule.infix_concat_slash rest).not.mpr last)]

/-- Without options the same cut is made in the source, and only one that has no place for it is
kept whole. -/
theorem splitOptions_text_eq_iff :
    Rule.splitOptions regex.text = (regex.text, none) ↔ ¬ "/$".toList <:+: regex.source := by
  have escaped : regex.text.contains '\\' = true := regex.contains_text
  have opens : regex.text.head? = some '/' := rfl
  have closes : regex.text.getLast? = some '/' := List.getLast?_concat
  have long : 1 < regex.text.length := by simp [text]
  have uncut := Rule.filter_cutLastSlashDollar?_eq_none_iff '/' (regex.source ++ ['/'])
  rw [Rule.infix_concat_slash] at uncut
  rw [← uncut]
  change _ ↔ ((Rule.cutLastSlashDollar? regex.text).filter _) = none
  unfold Rule.splitOptions
  rw [escaped, opens, closes]
  cases (Rule.cutLastSlashDollar? regex.text).filter _ with
  | some parts => simp
  | none => simp [long]

theorem blocking_text_of_whole (whole : Rule.splitOptions regex.text = (regex.text, none)) :
    Rule.blocking regex.text = .ok [regex.placement] := by
  have unlimited : Rule.blocking regex.text =
      Rule.unlimitedBlock regex.text regex.text regex.text none :=
    Rule.blocking_of_slash rfl regex.isSuffixOf?_text whole rfl
  rw [unlimited, Rule.unlimitedBlock, regex.contains_text, Rule.placeRegex, regex.regexOf_text]
  rfl

/-- What is cut off a source is missing from the pattern, if there is still one. -/
theorem blocking_text_of_slash_dollar {body rest : Text}
    (source : regex.source = body ++ '/' :: '$' :: rest) (last : ¬ "/$".toList <:+: rest) :
    Rule.blocking regex.text ≠ .ok [regex.placement] := by
  intro placed
  have cut := regex.splitOptions_text_of_slash_dollar source last
  have given : Rule.optionsRead false (regex.text.dropLead "||".toList) =
      Rule.Options.ofText (rest ++ ['/']) := by
    rw [Text.dropLead_eq_self (by simp [text]), Rule.optionsRead, regex.isSuffixOf?_text,
      Rule.Options.ofRule, cut]
    rfl
  have follows := Rule.blocking_follows regex.text _ placed _ (List.mem_singleton_self _)
  rw [given] at follows
  have party : (Rule.Options.ofText (rest ++ ['/'])).thirdParty = false :=
    (congrArg Scope.thirdParty follows.takes.scope).symm
  have everywhere : (Rule.Options.ofText (rest ++ ['/'])).domains = none :=
    (follows.limited rfl).resolve_left (Bool.eq_false_iff.mp party)
  rw [Rule.blocking_of_slash rfl regex.isSuffixOf?_text cut rfl] at placed
  simp only [Option.map_some, Option.getD_some, party, everywhere, Bool.false_eq_true,
    if_false, Option.elim_none] at placed
  split at placed
  · cases placed
  · have patterns := Rule.eq_of_unlimitedBlock regex.contains_text placed
    rw [Rule.regexSource_slashes] at patterns
    have whole : regex.source = body := congrArg RegexLibrary.Pattern.source patterns
    have lengths := congrArg List.length (source.symm.trans whole)
    simp at lengths

theorem blocking_text_eq_iff :
    Rule.blocking regex.text = .ok [regex.placement] ↔ ¬ "/$".toList <:+: regex.source := by
  constructor
  · intro placed inside
    obtain ⟨body, rest, source, last⟩ := Rule.exists_last_slash_dollar inside
    exact regex.blocking_text_of_slash_dollar source last placed
  · intro whole
    exact regex.blocking_text_of_whole (regex.splitOptions_text_eq_iff.mpr whole)

/-- A rule that is a regular expression and nothing else is kept whole, and blocks by its source,
just where the source has no dollar sign behind a slash. At the last one in any other source it is
cut, and what is left of the expression stands for options. -/
theorem kept_whole_iff :
    (Rule.splitOptions regex.text = (regex.text, none) ↔ ¬ "/$".toList <:+: regex.source) ∧
    ((Compilation.ofLines [regex.text]).rules = ⟨{}, [regex.placement]⟩ ↔
      ¬ "/$".toList <:+: regex.source) ∧
    ∀ body rest, regex.source = body ++ '/' :: '$' :: rest → ¬ "/$".toList <:+: rest →
      Rule.splitOptions regex.text = ('/' :: body ++ ['/'], some (rest ++ ['/'])) := by
  refine ⟨regex.splitOptions_text_eq_iff, ?_,
    fun _ _ => regex.splitOptions_text_of_slash_dollar⟩
  rw [Compilation.rules_ofRule regex.outcome_text, ← regex.blocking_text_eq_iff]
  constructor
  · intro same
    have placed := congrArg RuleSet.placements same
    cases came : Rule.blocking regex.text with
    | error reason =>
      rw [came] at placed
      cases placed
    | ok placements =>
      rw [came] at placed
      exact congrArg Except.ok placed
  · intro placed
    rw [placed]
    rfl

/-- An expression that ends where the URL does. -/
def scriptRegex : WrittenRegex where
  source := "http:.*\\.js$".toList
  escaped := by decide
  noCaret := by decide
  unhiding := by decide +kernel

/-- Here the end of the expression stands behind a slash. -/
def endingRegex : WrittenRegex where
  source := "ads\\d/$".toList
  escaped := by decide
  noCaret := by decide
  unhiding := by decide +kernel

theorem kept_whole_scriptRegex :
    (¬ "/$".toList <:+: scriptRegex.source ∧
      (Compilation.ofLines [scriptRegex.text]).rules = ⟨{}, [scriptRegex.placement]⟩) ∧
    endingRegex.source = "ads\\d".toList ++ '/' :: '$' :: [] ∧
      Rule.splitOptions endingRegex.text = ("/ads\\d/".toList, some "/".toList) := by
  have whole : ¬ "/$".toList <:+: scriptRegex.source := by decide +kernel
  exact ⟨⟨whole, (kept_whole_iff scriptRegex).2.1.mpr whole⟩, rfl,
    (kept_whole_iff endingRegex).2.2 "ads\\d".toList [] rfl (by decide)⟩

/-- The end of the expression is lost. -/
theorem not_kept_whole_endingRegex :
    ¬ (Rule.splitOptions endingRegex.text = (endingRegex.text, none) ∧
      (Compilation.ofLines [endingRegex.text]).rules = ⟨{}, [endingRegex.placement]⟩) ∧
    (Compilation.ofLines [endingRegex.text]).rules =
      ⟨{}, [⟨.blockRegex, none, .regex (.ofSource "ads\\d".toList)⟩]⟩ := by
  decide +kernel

theorem thirdPartyBlock_text (domains : Option Text) :
    Rule.thirdPartyBlock regex.text domains =
      match domains with
      | none => .ok [⟨.blockThirdPartyRegex, none, .regex regex.pattern⟩]
      | some domains =>
        Rule.placeForDomains .blockThirdPartyDomainRegex domains (.regex regex.pattern) := by
  unfold Rule.thirdPartyBlock
  rw [regex.isPrefixOf?_text, regex.contains_text, Rule.placeRegex, regex.regexOf_text]
  cases domains <;> rfl

theorem domainBlock_text {domains : Text} (noTilde : domains.contains '~' = false) :
    Rule.domainBlock regex.text domains =
      Rule.placeForDomains .blockDomainRegex domains (.regex regex.pattern) := by
  rw [Rule.domainBlock, noTilde, regex.isPrefixOf?_text, regex.isSuffixOf?_text,
    regex.contains_text, regex.regexOf_text]
  rfl

end WrittenRegex

/-- A regular expression with options that limit it, none of whose domains is negated. -/
structure LimitedRegex where
  regex : WrittenRegex
  thirdParty : Bool
  domains : List WrittenDomain
  positive : ∀ domain ∈ domains, domain.negated = false
  limited : thirdParty = true ∨ domains ≠ []

namespace LimitedRegex
variable (rule : LimitedRegex)

def domainText : Text := Text.join ['|'] (rule.domains.map (·.name))

def optionText : Text :=
  if rule.domains = [] then "third-party".toList
  else (if rule.thirdParty then "third-party,".toList else []) ++ "domain=".toList ++
    rule.domainText

def text : Text := rule.regex.text ++ '$' :: rule.optionText

def table : Table :=
  if rule.domains = [] then .blockThirdPartyRegex
  else if rule.thirdParty then .blockThirdPartyDomainRegex
  else .blockDomainRegex

/-- One entry for each domain, or one for all pages. -/
def entries : List Entry :=
  if rule.domains = [] then [⟨none, .regex rule.regex.pattern⟩]
  else rule.domains.map fun domain => ⟨some domain.name, .regex rule.regex.pattern⟩

/-- A rule of a segment that has the same options. -/
def twin : WrittenRule where
  hostMark := false
  pin := .anywhere
  pattern := ⟨["x".toList], by decide, by decide⟩
  thirdParty := rule.thirdParty
  domains := rule.domains

theorem thirdParty_of_everywhere (everywhere : rule.domains = []) : rule.thirdParty = true :=
  rule.limited.resolve_right (not_not_intro everywhere)

theorem domainText_twin : rule.twin.domainText = rule.domainText := by
  have names : rule.domains.map WrittenDomain.text = rule.domains.map (·.name) :=
    List.map_congr_left fun domain among => domain.text_of_not_negated (rule.positive domain among)
  rw [WrittenRule.domainText, domainText, twin, names]

theorem limits_twin : rule.twin.options ≠ [] := by
  rw [ne_eq, WrittenRule.options_eq_nil_iff]
  intro ⟨party, everywhere⟩
  exact Bool.false_ne_true (party.symm.trans (rule.thirdParty_of_everywhere everywhere))

theorem join_options_twin : Text.join [','] rule.twin.options = rule.optionText := by
  unfold WrittenRule.options WrittenRule.domainText? optionText
  rw [domainText_twin]
  change Text.join _ ((if rule.thirdParty = true then _ else _) ++ List.map _
    (Option.toList (if rule.domains = [] then _ else _))) = _
  by_cases everywhere : rule.domains = []
  · simp [everywhere, rule.thirdParty_of_everywhere everywhere, Text.join]
  · cases rule.thirdParty <;> simp [everywhere, Text.join]

theorem optionText?_twin : rule.twin.optionText? = some rule.optionText := by
  rw [WrittenRule.optionText?, if_neg rule.limits_twin, join_options_twin]

theorem ofText_optionText : Rule.Options.ofText rule.optionText =
    { thirdParty := rule.thirdParty, domains := rule.twin.domainText? } := by
  have read := rule.twin.ofText_optionText?
  rwa [optionText?_twin, Option.map_some, Option.getD_some] at read

theorem mem_optionText {c : Char} (member : c ∈ rule.optionText) :
    isWritten c = true ∧ c ≠ '$' := by
  have ofWord {word : Text} (plain : word.all (fun c => isWritten c && c != '$') = true)
      (inside : c ∈ word) : isWritten c = true ∧ c ≠ '$' := by
    simpa using List.all_eq_true.mp plain c inside
  unfold optionText at member
  split at member
  · exact ofWord (by decide) member
  · obtain inKeys | inDomains := List.mem_append.mp member
    · refine ofWord ?_ inKeys
      split <;> decide
    · obtain bar | ⟨name, among, inside⟩ := Text.mem_join inDomains
      · exact ofWord (by decide) bar
      · obtain ⟨domain, _, rfl⟩ := List.mem_map.mp among
        have literal := List.all_eq_true.mp domain.literal c inside
        simp only [isDomainLiteral, Bool.and_eq_true] at literal
        exact ⟨isWritten_of_isLiteral literal.1, ne_of_isLiteral literal.1 (by decide)⟩

theorem splitOptions_text : Rule.splitOptions rule.text = (rule.regex.text, some rule.optionText) := by
  apply rule.regex.splitOptions_append
  intro inside
  exact (rule.mem_optionText (inside.subset (by decide))).2 rfl

theorem outcome_text : Line.outcome rule.text = .ofRule (Rule.blocking rule.text) := by
  apply rule.regex.outcome_append
  intro c member
  obtain rfl | inOptions := List.mem_cons.mp member
  · decide
  · exact (rule.mem_optionText inOptions).1

theorem isSuffixOf?_text : ['|'].isSuffixOf? rule.text = none := by
  obtain ⟨before, c, shape, noBar⟩ := rule.twin.exists_optionText_concat rule.limits_twin
  rw [join_options_twin] at shape
  have whole : rule.text = (rule.regex.text ++ '$' :: before) ++ [c] := by simp [text, shape]
  rw [whole]
  exact Text.isSuffixOf?_singleton_concat noBar _

theorem not_contains_domainText : rule.domainText.contains '~' = false := by
  rw [List.contains_eq_mem, decide_eq_false_iff_not, ← domainText_twin,
    WrittenRule.tilde_mem_domainText_iff]
  intro ⟨domain, among, negated⟩
  rw [rule.positive domain among] at negated
  cases negated

theorem placements_twin (table : Table) :
    rule.twin.placements table (.regex rule.regex.pattern) =
      rule.entries.map (Placement.mk table) := by
  change (if rule.domains = [] then _ else _) = List.map _ rule.entries
  unfold entries
  split
  · rfl
  · rw [List.map_map]
    rfl

theorem placeForDomains_domainText (listed : rule.domains ≠ []) (table : Table) :
    Rule.placeForDomains table rule.domainText (.regex rule.regex.pattern) =
      .ok (rule.entries.map (Placement.mk table)) := by
  have some : rule.twin.domains ≠ [] := listed
  rw [← domainText_twin, WrittenRule.placeForDomains_text some rule.positive, placements_twin]

theorem blocking_text : Rule.blocking rule.text = .ok (rule.entries.map (Placement.mk rule.table)) := by
  rw [Rule.blocking_of_slash rfl rule.isSuffixOf?_text rule.splitOptions_text rfl]
  simp only [Option.map_some, Option.getD_some, ofText_optionText, Bool.false_eq_true, if_false]
  by_cases everywhere : rule.domains = []
  · have noDomains : rule.twin.domainText? = none := if_pos everywhere
    rw [rule.thirdParty_of_everywhere everywhere, noDomains, if_pos rfl, rule.regex.thirdPartyBlock_text, table, entries,
      if_pos everywhere, if_pos everywhere]
    rfl
  · have domains : rule.twin.domainText? = some rule.domainText := by
      rw [WrittenRule.domainText?_of_listed everywhere, domainText_twin]
    rw [domains, table, if_neg everywhere]
    cases rule.thirdParty with
    | true =>
      rw [if_pos rfl, if_pos rfl, rule.regex.thirdPartyBlock_text]
      exact rule.placeForDomains_domainText everywhere .blockThirdPartyDomainRegex
    | false =>
      rw [if_neg Bool.false_ne_true, if_neg Bool.false_ne_true, Option.elim_some,
        rule.regex.domainBlock_text rule.not_contains_domainText]
      exact rule.placeForDomains_domainText everywhere .blockDomainRegex

theorem rules_text : (Compilation.ofLines [rule.text]).rules =
    ⟨{}, rule.entries.map (Placement.mk rule.table)⟩ := by
  rw [Compilation.rules_ofRule rule.outcome_text, blocking_text]
  rfl

theorem scope_table : rule.table.scope = ⟨!rule.domains.isEmpty, rule.thirdParty⟩ := by
  unfold table
  by_cases everywhere : rule.domains = []
  · rw [if_pos everywhere, everywhere, rule.thirdParty_of_everywhere everywhere]
    rfl
  · rw [if_neg everywhere, List.isEmpty_eq_false_iff.mpr everywhere]
    cases rule.thirdParty <;> rfl

theorem anchor_table : rule.table.anchor = .whole ∧ rule.table.isException = false := by
  unfold table
  split
  · exact ⟨rfl, rfl⟩
  · split <;> exact ⟨rfl, rfl⟩

theorem exists_fires_iff (request : Request) :
    (∃ placement ∈ rule.entries.map (Placement.mk rule.table), placement.fires request = true) ↔
      (rule.thirdParty = true → request.isThirdParty = true) ∧
      (rule.domains ≠ [] → ∃ domain ∈ rule.domains, domain.Covers request) ∧
      rule.regex.pattern.isMatch request.resource = true := by
  rw [← placements_twin]
  apply WrittenRule.exists_fires_iff rule.scope_table
  intro domain
  unfold Placement.fires Entry.fires
  rw [Bool.and_eq_true, Bool.and_eq_true, rule.anchor_table.1, Request.isOn_iff]

theorem isBlocked_iff (request : Request) :
    ((Compilation.ofLines [rule.text]).rules.decide request).isBlocked = true ↔
      (rule.thirdParty = true → request.isThirdParty = true) ∧
      (rule.domains ≠ [] → ∃ domain ∈ rule.domains, domain.Covers request) ∧
      rule.regex.pattern.isMatch request.resource = true := by
  have blocks {placement : Placement}
      (placed : placement ∈ rule.entries.map (Placement.mk rule.table)) :
      placement.table.isException = false := by
    obtain ⟨entry, _, rfl⟩ := List.mem_map.mp placed
    exact rule.anchor_table.2
  rw [RuleSet.isBlocked_decide_iff, RuleSet.blocks_iff, RuleSet.excepts_iff, rules_text,
    ← rule.exists_fires_iff request]
  constructor
  · intro ⟨⟨placement, placed, _, fires⟩, _⟩
    exact ⟨placement, placed, fires⟩
  · intro ⟨placement, placed, fires⟩
    refine ⟨⟨placement, placed, blocks placed, fires⟩, ?_⟩
    intro ⟨other, excepting, excepts, _⟩
    rw [blocks excepting] at excepts
    cases excepts

theorem table_rules_text (table : Table) : (Compilation.ofLines [rule.text]).rules.table table =
    if table = rule.table then rule.entries else [] := by
  rw [rules_text, RuleSet.table, List.filterMap_map]
  split
  next here => simp [here]
  next other => simp [Ne.symm other]

/-- A regular expression with options is placed by its source as it stands between the slashes, once
for all pages or once for each domain in their order, and nothing else is placed. The list blocks
the requests of those parties and pages to the URLs that the expression matches as a whole. -/
theorem limited_regex :
    (∀ table, (Compilation.ofLines [rule.text]).rules.table table =
      if table = rule.table then rule.entries else []) ∧
    ∀ page resource, (((Compilation.ofLines [rule.text]).rules.decide
        (.ofUrls page resource)).isBlocked = true ↔
      (rule.thirdParty = true → (Request.ofUrls page resource).isThirdParty = true) ∧
      (rule.domains ≠ [] → ∃ domain ∈ rule.domains, domain.Covers (.ofUrls page resource)) ∧
      rule.regex.pattern.isMatch resource = true) :=
  ⟨rule.table_rules_text, fun _ _ => rule.isBlocked_iff _⟩

/-- A source with all the characters that mean something in other rules. -/
def trackerRule : LimitedRegex where
  regex :=
    { source := "http:.*/$|~b\\/$".toList
      escaped := by decide
      noCaret := by decide
      unhiding := by decide +kernel }
  thirdParty := true
  domains := [⟨false, "daily.com".toList, by decide, by decide⟩,
    ⟨false, "forum.org".toList, by decide, by decide⟩]
  positive := List.forall_mem_cons.mpr ⟨rfl, List.forall_mem_singleton.mpr rfl⟩
  limited := .inl rfl

example : trackerRule.text =
    "/http:.*/$|~b\\/$/$third-party,domain=daily.com|forum.org".toList := by decide +kernel

theorem limited_regex_trackerRule :
    ((Compilation.ofLines [trackerRule.text]).rules.decide
      (.ofUrls "http://forum.org/".toList "http://ads.net/".toList)).isBlocked = true := by
  have found : trackerRule.regex.pattern.isMatch "http://ads.net/".toList = true := by
    decide +kernel
  have onPage : ∃ domain ∈ trackerRule.domains, domain.Covers
      (.ofUrls "http://forum.org/".toList "http://ads.net/".toList) :=
    ⟨_, .tail _ (.head _), "forum.org".toList, by decide +kernel, by decide +kernel⟩
  have party : (Request.ofUrls "http://forum.org/".toList "http://ads.net/".toList).isThirdParty =
      true := by decide +kernel
  have applies := (limited_regex trackerRule).2 "http://forum.org/".toList "http://ads.net/".toList
  exact applies.mpr ⟨fun _ => party, fun _ => onPage, found⟩

end LimitedRegex

end FilterList
