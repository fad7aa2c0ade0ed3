import FilterList.Proofs.CompilerRun
import FilterList.Proofs.OptionedLines

/-! The order of a rule's options. Options are read one after the other into what limits the rule, and a
rule that is limited is made of that and its pattern. So where the options limit the rule and no two of
them list domains, they may be written in any order. -/

namespace FilterList

def optionedLine (rule : Text) (options : List Text) : Text := rule ++ '$' :: Text.join [','] options

namespace Rule

namespace Options

def listed? (option : Text) : Option Text := "domain=".toList.isPrefixOf? (Text.trim option)

def isLimit (option : Text) : Bool :=
  Text.trim option == "third-party".toList || Text.trim option == "~third-party".toList ||
    (listed? option).isSome

def limits (options : Options) : Bool :=
  options.thirdParty || options.notThirdParty || options.domains.isSome

theorem add_eq (options : Options) (option : Text) :
    options.add option =
      { thirdParty := options.thirdParty || Text.trim option == "third-party".toList
        notThirdParty := options.notThirdParty || Text.trim option == "~third-party".toList
        domains := (listed? option).or options.domains } := by
  dsimp only [add, listed?]
  split
  next same => simp [same, List.isPrefixOf?]
  next =>
    split
    next same => simp [same, List.isPrefixOf?]
    next party notParty =>
      rw [beq_eq_false_iff_ne.mpr party, beq_eq_false_iff_ne.mpr notParty, Bool.or_false,
        Bool.or_false]
      cases "domain=".toList.isPrefixOf? (Text.trim option) <;> rfl

theorem add_right_comm (options : Options) {first second : Text}
    (single : (listed? first).isSome = true → (listed? second).isSome = true → first = second) :
    (options.add first).add second = (options.add second).add first := by
  have domains : (listed? second).or ((listed? first).or options.domains) =
      (listed? first).or ((listed? second).or options.domains) := by
    cases one : listed? first with
    | none => rfl
    | some _ =>
      cases other : listed? second with
      | none => rfl
      | some _ =>
        have same := single (by rw [one]; rfl) (by rw [other]; rfl)
        rw [← one, ← other, same]
  simp only [add_eq, domains, Bool.or_right_comm]

theorem limits_add (options : Options) (option : Text) :
    (options.add option).limits = (options.limits || isLimit option) := by
  simp only [add_eq, limits, isLimit, Option.isSome_or]
  ac_rfl

theorem limits_foldl_add (texts : List Text) (options : Options) :
    (texts.foldl add options).limits = (options.limits || texts.any isLimit) := by
  induction texts generalizing options with
  | nil => simp
  | cons option rest ih => rw [List.foldl_cons, ih, limits_add, List.any_cons, Bool.or_assoc]

theorem ofText_trimEnd (text : Text) : ofText (Text.trimEnd text) = ofText text := by
  have trimmed (text : Text) : ofText text = ((text.pieces ',').map Text.trim).foldl add {} := by
    rw [ofText, List.foldl_map]
    congr 1
    funext options option
    rw [add, add, Text.trim_trim]
  rw [trimmed, trimmed, Text.map_trim_pieces_trimEnd (by decide)]

end Options

theorem plain_of_subset {rule part : Text} (plainRule : '$' ∉ rule ∧ '\\' ∉ rule)
    (within : part ⊆ rule) : '$' ∉ part ∧ '\\' ∉ part :=
  ⟨mt (@within _) plainRule.1, mt (@within _) plainRule.2⟩

/-- The text behind the dollar sign of a rule: options that limit the rule, and nothing that would count
for the whole line. -/
structure LimitingText (text : Text) : Prop where
  plain : '$' ∉ text ∧ '\\' ∉ text
  unbarred : text.getLast? ≠ some '|'
  limits : (Options.ofText text).limits = true

/-- Options that may be written behind a rule in any order: each is a single one, none of them would pin
what stands before it, and they limit the rule, by one list of domains at most. -/
structure Limiting (options : List Text) : Prop where
  plain : ∀ option ∈ options, ',' ∉ option ∧ '$' ∉ option ∧ '\\' ∉ option ∧ '^' ∉ option
  unbarred : ∀ option ∈ options, (Text.trim option).getLast? ≠ some '|'
  single : options.countP (fun option => (Options.listed? option).isSome) ≤ 1
  limits : ∃ option ∈ options, Options.isLimit option = true

namespace Limiting
variable {options others : List Text} (limiting : Limiting options)
include limiting

theorem perm (permuted : options.Perm others) : Limiting others where
  plain option among := limiting.plain option (permuted.mem_iff.mpr among)
  unbarred option among := limiting.unbarred option (permuted.mem_iff.mpr among)
  single := permuted.countP_eq _ ▸ limiting.single
  limits :=
    have ⟨option, among, limits⟩ := limiting.limits
    ⟨option, permuted.mem_iff.mp among, limits⟩

theorem ofText_join : Options.ofText (Text.join [','] options) = options.foldl Options.add {} := by
  obtain ⟨_, among, _⟩ := limiting.limits
  rw [Options.ofText, Text.pieces_join (List.ne_nil_of_mem among) fun option listed =>
    (limiting.plain option listed).1]

theorem eq_of_listed {first second : Text} (among : first ∈ options) (amongToo : second ∈ options)
    (lists : (Options.listed? first).isSome = true)
    (listsToo : (Options.listed? second).isSome = true) : first = second := by
  have few := limiting.single
  rw [List.countP_eq_length_filter] at few
  have here := List.mem_filter_of_mem (p := fun option => (Options.listed? option).isSome) among lists
  have there :=
    List.mem_filter_of_mem (p := fun option => (Options.listed? option).isSome) amongToo listsToo
  have some := List.length_pos_of_mem here
  obtain ⟨only, one⟩ := List.length_eq_one_iff.mp (Nat.le_antisymm few some)
  rw [one, List.mem_singleton] at here there
  exact here.trans there.symm

theorem ofText_perm (permuted : options.Perm others) :
    Options.ofText (Text.join [','] options) = Options.ofText (Text.join [','] others) := by
  rw [limiting.ofText_join, (limiting.perm permuted).ofText_join]
  apply permuted.foldl_eq'
  intro first among second amongToo read
  exact read.add_right_comm (limiting.eq_of_listed among amongToo)

theorem noCaret_join : '^' ∉ Text.join [','] options :=
  Text.not_mem_join (by decide) fun option among => (limiting.plain option among).2.2.2

theorem text : LimitingText (Text.trimEnd (Text.join [','] options)) where
  plain := by
    have noDollar : '$' ∉ Text.join [','] options :=
      Text.not_mem_join (by decide) fun option among => (limiting.plain option among).2.1
    have noEscape : '\\' ∉ Text.join [','] options :=
      Text.not_mem_join (by decide) fun option among => (limiting.plain option among).2.2.1
    exact plain_of_subset ⟨noDollar, noEscape⟩ (Text.dropEndWhile_subset Text.isBlank _)
  unbarred := Text.getLast?_trimEnd_join (by decide) (by decide) limiting.unbarred
  limits := by
    obtain ⟨option, among, limits⟩ := limiting.limits
    rw [Options.ofText_trimEnd, limiting.ofText_join, Options.limits_foldl_add,
      List.any_eq_true.mpr ⟨option, among, limits⟩, Bool.or_true]

end Limiting

section Reading
variable {rule text other : Text} (plainRule : '$' ∉ rule ∧ '\\' ∉ rule)
include plainRule

/-- Without a backslash in the rule its only dollar sign is where it is cut. -/
theorem splitOptions_append_dollar (limiting : LimitingText text) :
    splitOptions (rule ++ '$' :: text) = (rule, some text) := by
  apply splitOptions_of_dollar plainRule.1 limiting.plain.1
  intro escaped
  exact absurd (List.mem_append.mp escaped) (not_or.mpr ⟨plainRule.2, limiting.plain.2⟩)

variable (limiting : LimitingText text) (limitingOther : LimitingText other)
  (same : Options.ofText text = Options.ofText other)
include limiting limitingOther same

theorem exception_congr_options :
    exception (rule ++ '$' :: text) = exception (rule ++ '$' :: other) := by
  have plain := plain_of_subset plainRule (Text.dropLead_subset rule "||".toList)
  rw [exception_append_dollar (splitOptions_append_dollar plain limiting),
    exception_append_dollar (splitOptions_append_dollar plain limitingOther), same]

/-- Only where nothing limits a block does its text count once more, and so the order of its options. -/
theorem blocking_congr_options :
    blocking (rule ++ '$' :: text) = blocking (rule ++ '$' :: other) := by
  have plain := plain_of_subset plainRule (Text.dropLead_subset rule "||".toList)
  have limits := limitingOther.limits
  simp only [same,
    blocking_append_dollar limiting.unbarred (splitOptions_append_dollar plain limiting),
    blocking_append_dollar limitingOther.unbarred (splitOptions_append_dollar plain limitingOther)]
  cases refused : (Options.ofText other).notThirdParty with
  | true => rfl
  | false =>
    cases party : (Options.ofText other).thirdParty with
    | true => rfl
    | false =>
      cases listed : (Options.ofText other).domains with
      | some domains => rfl
      | none => simp [Options.limits, refused, party, listed] at limits

end Reading

end Rule

namespace Line

def Outcome.withoutValue : Outcome → Outcome
  | comment _ => comment none
  | outcome => outcome

theorem Outcome.placements_withoutValue (outcome : Outcome) :
    outcome.withoutValue.placements = outcome.placements := by
  cases outcome <;> rfl

theorem Outcome.count_withoutValue (tally : Tally) (outcome : Outcome) :
    tally.count outcome.withoutValue = tally.count outcome := by
  cases outcome <;> rfl

theorem hasCosmeticMark_join (options : List Text) :
    hasCosmeticMark (Text.join [','] options) = options.any hasCosmeticMark := by
  induction options with
  | nil => rfl
  | cons option rest ih =>
    rw [Text.join_cons, List.any_cons, ← ih]
    split
    next none =>
      rw [none, List.append_nil]
      exact (Bool.or_false _).symm
    next => exact hasCosmeticMark_append_cons (by decide) option _

/-- A comment may give other values for the header, since its options are a part of them. -/
theorem outcome_permuted_options {rule : Text} {options others : List Text}
    (plainRule : '$' ∉ rule ∧ '\\' ∉ rule) (limiting : Rule.Limiting options)
    (permuted : options.Perm others) :
    (outcome (optionedLine rule options)).withoutValue =
      (outcome (optionedLine rule others)).withoutValue := by
  have limitingOthers := limiting.perm permuted
  have plain := Rule.plain_of_subset plainRule (opening_subset rule)
  have same : Rule.Options.ofText (Text.trimEnd (Text.join [','] options)) =
      Rule.Options.ofText (Text.trimEnd (Text.join [','] others)) := by
    rw [Rule.Options.ofText_trimEnd, Rule.Options.ofText_trimEnd, limiting.ofText_perm permuted]
  have marks : hasCosmeticMark (Text.trimEnd (Text.join [','] options)) =
      hasCosmeticMark (Text.trimEnd (Text.join [','] others)) := by
    rw [hasCosmeticMark_trimEnd, hasCosmeticMark_trimEnd, hasCosmeticMark_join,
      hasCosmeticMark_join, permuted.any_eq]
  rw [outcome, outcome, optionedLine, optionedLine, content_append_dollar rule limiting.noCaret_join,
    content_append_dollar rule limitingOthers.noCaret_join, outcomeOf_append_dollar,
    outcomeOf_append_dollar, marks]
  split
  · rfl
  split
  · rfl
  cases cut : "@@".toList.isPrefixOf? (opening rule) with
  | some entry =>
    have plainEntry := Rule.plain_of_subset plain (Text.subset_of_isPrefixOf? cut)
    exact congrArg (fun result => (Outcome.ofRule result).withoutValue)
      (Rule.exception_congr_options plainEntry limiting.text limitingOthers.text same)
  | none =>
    exact congrArg (fun result => (Outcome.ofRule result).withoutValue)
      (Rule.blocking_congr_options plain limiting.text limitingOthers.text same)

end Line

namespace Compilation

/-- Where options limit a rule, and no two of them list domains, the rule places the same entries in
every table and is counted the same with the options in any order. -/
theorem table_of_permuted_options {rule : Text} {options others : List Text}
    (plainRule : '$' ∉ rule ∧ '\\' ∉ rule) (limiting : Rule.Limiting options)
    (permuted : options.Perm others) :
    let compiled := ofLines [optionedLine rule options]
    let reordered := ofLines [optionedLine rule others]
    (∀ table, compiled.rules.table table = reordered.rules.table table) ∧
      compiled.tally = reordered.tally := by
  intro compiled reordered
  have same := Line.outcome_permuted_options plainRule limiting permuted
  constructor
  · intro table
    simp only [compiled, reordered, RuleSet.table, rules_ofLine]
    rw [← Line.Outcome.placements_withoutValue, same, Line.Outcome.placements_withoutValue]
  · simp only [compiled, reordered, tally_ofLine]
    rw [← Line.Outcome.count_withoutValue, same, Line.Outcome.count_withoutValue]

theorem table_of_permuted_options_around_unknown :
    let options := [" domain=a.test|~b.test ".toList, "~script".toList, "third-party".toList, []]
    let reordered := ["~script".toList, [], "third-party".toList, " domain=a.test|~b.test ".toList]
    Rule.Limiting options ∧ options.Perm reordered ∧
    (∀ table, (ofLines [optionedLine "@@||ads^".toList options]).rules.table table =
      (ofLines [optionedLine "@@||ads^".toList reordered]).rules.table table) ∧
    (ofLines [optionedLine "||ads*".toList options]).tally =
      (ofLines [optionedLine "||ads*".toList reordered]).tally ∧
    (ofLines [optionedLine "||ads*".toList reordered]).tally.entries = 3 := by
  intro options reordered
  have limiting : Rule.Limiting options :=
    ⟨by decide, by decide, by decide, "third-party".toList, by decide, by decide⟩
  have permuted : options.Perm reordered := by decide
  refine ⟨limiting, permuted, ?_, ?_, by decide +kernel⟩
  · exact (table_of_permuted_options (by decide) limiting permuted).1
  · exact (table_of_permuted_options (by decide) limiting permuted).2

end Compilation

end FilterList
