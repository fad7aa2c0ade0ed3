import FilterList.Proofs.TextCutting
import FilterList.Rule.Options

/-! What a rule is cut into is made of its own characters: the pattern, the options and what these
list. The separator of a list is in none of its parts. -/

namespace FilterList

namespace Text
variable {text part : Text}

theorem subset_of_isPrefixOf? {lead rest : Text} (cut : lead.isPrefixOf? text = some rest) :
    rest ⊆ text := by
  rw [← List.isPrefixOf?_eq_some_iff_append_eq.mp cut]
  exact List.subset_append_right ..

theorem subset_of_isSuffixOf? {tail front : Text} (cut : tail.isSuffixOf? text = some front) :
    front ⊆ text := by
  rw [← List.isSuffixOf?_eq_some_iff_append_eq.mp cut]
  exact List.subset_append_left ..

theorem dropLead_subset (text lead : Text) : dropLead text lead ⊆ text := by
  unfold dropLead
  cases cut : lead.isPrefixOf? text with
  | none => exact List.Subset.refl text
  | some rest => exact subset_of_isPrefixOf? cut

theorem dropTail_subset (text tail : Text) : dropTail text tail ⊆ text := by
  unfold dropTail
  cases cut : tail.isSuffixOf? text with
  | none => exact List.Subset.refl text
  | some front => exact subset_of_isSuffixOf? cut

theorem dropEndWhile_subset (p : Char → Bool) (text : Text) : dropEndWhile p text ⊆ text := by
  intro c kept
  exact List.mem_reverse.mp (List.dropWhile_subset p (List.mem_reverse.mp kept))

theorem trim_subset (text : Text) : trim text ⊆ text :=
  List.Subset.trans (dropEndWhile_subset isBlank _) (List.dropWhile_subset isBlank)

theorem subset_of_mem_pieces {separator : Char} (among : part ∈ pieces separator text) :
    part ⊆ text := by
  intro c inside
  have joined : c ∈ join [separator] (pieces separator text) := mem_join_of_mem among inside
  rwa [join_pieces] at joined

theorem not_mem_of_mem_pieces {separator : Char} (among : part ∈ pieces separator text) :
    separator ∉ part := by
  induction text generalizing part with
  | nil =>
    cases List.mem_singleton.mp among
    exact List.not_mem_nil
  | cons c rest ih =>
    obtain ⟨first, others, shape⟩ := List.exists_cons_of_ne_nil (pieces_ne_nil separator rest)
    rw [shape] at ih
    rw [pieces, shape] at among
    split at among
    next =>
      obtain rfl | later := List.mem_cons.mp among
      · exact List.not_mem_nil
      · exact ih later
    next other =>
      obtain rfl | later := List.mem_cons.mp among
      · exact List.not_mem_cons_of_ne_of_not_mem (Ne.symm other) (ih List.mem_cons_self)
      · exact ih (List.mem_cons_of_mem _ later)

end Text

namespace Rule

theorem cutLastSlashDollar?_eq_none_iff {entry : Text} :
    cutLastSlashDollar? entry = none ↔ ¬ "/$".toList <:+: entry := by
  induction entry with
  | nil => simp [cutLastSlashDollar?]
  | cons c rest ih =>
    have here : "/$".toList <+: c :: rest ↔ c = '/' ∧ ∃ after, rest = '$' :: after := by
      simp [List.cons_prefix_iff]
    unfold cutLastSlashDollar?
    rw [List.infix_cons_iff, not_or, ← ih, here]
    cases cutLastSlashDollar? rest with
    | some parts => simp
    | none =>
      dsimp only
      split
      next after => simp
      next other => simpa using fun slash after same => other after slash same

/-- Of several places where a dollar sign follows a slash the last is where the rule is cut. -/
theorem cutLastSlashDollar?_eq_some_iff {entry pattern options : Text} :
    cutLastSlashDollar? entry = some (pattern, options) ↔
      entry = pattern ++ '$' :: options ∧ (∃ before, pattern = before ++ ['/']) ∧
        ¬ "/$".toList <:+: options := by
  constructor
  · intro cut
    induction entry generalizing pattern with
    | nil => cases cut
    | cons c rest ih =>
      unfold cutLastSlashDollar? at cut
      split at cut
      next front back found =>
        cases cut
        obtain ⟨rfl, ⟨before, rfl⟩, free⟩ := ih found
        exact ⟨rfl, ⟨c :: before, rfl⟩, free⟩
      next absent =>
        split at cut
        next after =>
          cases cut
          refine ⟨rfl, ⟨[], rfl⟩, fun later => ?_⟩
          exact cutLastSlashDollar?_eq_none_iff.mp absent (List.infix_cons later)
        next => cases cut
  · rintro ⟨rfl, ⟨before, rfl⟩, free⟩
    induction before with
    | nil =>
      have absent : cutLastSlashDollar? ('$' :: options) = none := by
        rw [cutLastSlashDollar?_eq_none_iff, List.infix_cons_iff, not_or]
        exact ⟨by simp, free⟩
      change cutLastSlashDollar? ('/' :: '$' :: options) = _
      unfold cutLastSlashDollar?
      rw [absent]
      rfl
    | cons c rest ih =>
      rw [List.cons_append, List.cons_append]
      unfold cutLastSlashDollar?
      rw [ih]

theorem exists_last_slash_dollar {source : Text} (inside : "/$".toList <:+: source) :
    ∃ body rest, source = body ++ '/' :: '$' :: rest ∧ ¬ "/$".toList <:+: rest := by
  have found : cutLastSlashDollar? source ≠ none := fun absent =>
    cutLastSlashDollar?_eq_none_iff.mp absent inside
  obtain ⟨⟨_, rest⟩, cut⟩ := Option.ne_none_iff_exists'.mp found
  obtain ⟨whole, ⟨body, rfl⟩, last⟩ := cutLastSlashDollar?_eq_some_iff.mp cut
  exact ⟨body, rest, by simpa using whole, last⟩

theorem infix_concat_slash (source : Text) :
    "/$".toList <:+: source ++ ['/'] ↔ "/$".toList <:+: source := by
  rw [List.infix_concat_iff, or_iff_right]
  intro ⟨before, same⟩
  have last := congrArg List.getLast? same
  simp at last

/-- The cut leaves more than a slash before it just where it is made behind the first character. -/
theorem filter_cutLastSlashDollar?_eq_none_iff (c : Char) (rest : Text) :
    ((cutLastSlashDollar? (c :: rest)).filter fun (pattern, _) => pattern.length > 1) = none ↔
      ¬ "/$".toList <:+: rest := by
  rw [Option.filter_eq_none_iff]
  constructor
  · intro short later
    have found : cutLastSlashDollar? (c :: rest) ≠ none := fun absent =>
      cutLastSlashDollar?_eq_none_iff.mp absent (List.infix_cons later)
    obtain ⟨⟨pattern, options⟩, cut⟩ := Option.ne_none_iff_exists'.mp found
    obtain ⟨whole, ⟨before, rfl⟩, free⟩ := cutLastSlashDollar?_eq_some_iff.mp cut
    cases before with
    | nil =>
      obtain ⟨rfl, rfl⟩ := List.cons.inj whole
      obtain opens | inside := List.infix_cons_iff.mp later
      · simp at opens
      · exact free inside
    | cons d front => simpa using short _ cut
  · rintro absent ⟨pattern, options⟩ cut
    obtain ⟨whole, ⟨before, rfl⟩, free⟩ := cutLastSlashDollar?_eq_some_iff.mp cut
    cases before with
    | nil => simp
    | cons d front =>
      obtain ⟨rfl, rfl⟩ := List.cons.inj whole
      exact absurd ⟨front, options, by simp⟩ absent

/-- A rule without options is all pattern, and one with options is cut at a dollar sign. -/
theorem splitOptions_cases (entry : Text) :
    splitOptions entry = (entry, none) ∨ ∃ pattern options,
      splitOptions entry = (pattern, some options) ∧ entry = pattern ++ '$' :: options := by
  have atFirst : splitOptions.atFirstDollar entry = (entry, none) ∨ ∃ pattern options,
      splitOptions.atFirstDollar entry = (pattern, some options) ∧
        entry = pattern ++ '$' :: options := by
    unfold splitOptions.atFirstDollar
    cases cut : Text.cut? '$' entry with
    | none => exact .inl rfl
    | some parts => exact .inr ⟨_, _, rfl, Text.eq_append_of_cut? cut⟩
  unfold splitOptions
  split
  · split
    next pattern options found =>
      obtain ⟨cut, _⟩ := Option.filter_eq_some_iff.mp found
      exact .inr ⟨_, _, rfl, (cutLastSlashDollar?_eq_some_iff.mp cut).1⟩
    next =>
      split
      · exact .inl rfl
      · exact atFirst
  · exact atFirst

/-- A rule that opens with a slash and has a backslash is cut at the last dollar sign behind a
slash. -/
theorem splitOptions_slashes {body options : Text} (escaped : '\\' ∈ body ++ options)
    (free : ¬ "/$".toList <:+: options) :
    splitOptions ('/' :: body ++ '/' :: '$' :: options) = ('/' :: body ++ ['/'], some options) := by
  have hasEscape : ('/' :: body ++ '/' :: '$' :: options).contains '\\' = true := by
    simpa using escaped
  have opens : ('/' :: body ++ '/' :: '$' :: options).head? = some '/' := rfl
  have cut : cutLastSlashDollar? ('/' :: body ++ '/' :: '$' :: options) =
      some ('/' :: body ++ ['/'], options) :=
    cutLastSlashDollar?_eq_some_iff.mpr ⟨by simp, ⟨'/' :: body, rfl⟩, free⟩
  have long : 1 < ('/' :: body ++ ['/']).length := by simp
  simp only [splitOptions, hasEscape, opens, cut, Option.filter_some, beq_self_eq_true,
    Bool.and_self, if_true, gt_iff_lt, decide_eq_true long]

/-- Options without a dollar sign of their own begin behind the only one, unless it could belong to
a regular expression that goes on to the end of the rule. -/
theorem splitOptions_of_dollar {pattern options : Text} (noDollar : '$' ∉ pattern)
    (noOther : '$' ∉ options) (closed : '\\' ∈ pattern ++ options → options.getLast? ≠ some '/') :
    splitOptions (pattern ++ '$' :: options) = (pattern, some options) := by
  have atFirst : splitOptions.atFirstDollar (pattern ++ '$' :: options) = (pattern, some options) := by
    rw [splitOptions.atFirstDollar, Text.cut?_append noDollar]
  unfold splitOptions
  split
  next slashes =>
    have escaped : '\\' ∈ pattern ++ options := by
      simpa using (Bool.and_eq_true_iff.mp slashes).2
    split
    next front back found =>
      obtain ⟨cut, _⟩ := Option.filter_eq_some_iff.mp found
      have whole := (cutLastSlashDollar?_eq_some_iff.mp cut).1
      obtain ⟨rfl, _, rfl⟩ := (List.append_cons_inj_of_notMem noDollar noOther).mp whole
      rfl
    next =>
      have unclosed : ((pattern ++ '$' :: options).getLast? == some '/') = false := by
        rw [beq_eq_false_iff_ne, List.getLast?_append, List.getLast?_cons]
        cases last : options.getLast? with
        | none => simp
        | some c => simpa [last] using closed escaped
      rw [unclosed, Bool.and_false, if_neg Bool.false_ne_true]
      exact atFirst
  next => exact atFirst

theorem pattern_subset (entry : Text) : (splitOptions entry).1 ⊆ entry := by
  obtain whole | ⟨pattern, options, cut, shape⟩ := splitOptions_cases entry
  · rw [whole]
    exact List.Subset.refl entry
  · rw [cut, shape]
    exact List.subset_append_left ..

theorem options_subset {entry options : Text} (given : (splitOptions entry).2 = some options) :
    options ⊆ entry := by
  obtain whole | ⟨pattern, others, cut, shape⟩ := splitOptions_cases entry
  · rw [whole] at given
    cases given
  · rw [cut] at given
    cases given
    rw [shape]
    exact List.subset_append_of_subset_right _ (List.subset_cons_self ..)

theorem regexSource_slashes (source : Text) : regexSource ('/' :: source ++ ['/']) = source := by
  change (['/'].isSuffixOf? (source ++ ['/'])).getD _ = source
  rw [List.isSuffixOf?_eq_some_iff_append_eq.mpr rfl, Option.getD_some]

theorem regexSource_subset (pattern : Text) : regexSource pattern ⊆ pattern := by
  unfold regexSource
  split
  next rest =>
    cases cut : ['/'].isSuffixOf? rest with
    | none => exact List.Subset.refl _
    | some source => exact List.subset_cons_of_subset _ (Text.subset_of_isSuffixOf? cut)
  next => exact List.Subset.refl pattern

namespace Options

theorem domains_add {options : Options} {option domains : Text}
    (given : (options.add option).domains = some domains) :
    options.domains = some domains ∨ domains ⊆ option := by
  dsimp only [add] at given
  split at given
  · exact .inl given
  · split at given
    · exact .inl given
    · split at given
      next cut =>
        cases given
        exact .inr (List.Subset.trans (Text.subset_of_isPrefixOf? cut) (Text.trim_subset option))
      next => exact .inl given

theorem domains_foldl_add {texts : List Text} {options : Options} {domains : Text}
    (given : (texts.foldl add options).domains = some domains) :
    options.domains = some domains ∨ ∃ option ∈ texts, domains ⊆ option := by
  induction texts generalizing options with
  | nil => exact .inl given
  | cons option rest ih =>
    obtain earlier | ⟨other, among, inside⟩ := ih given
    · obtain before | inside := domains_add earlier
      · exact .inl before
      · exact .inr ⟨option, List.mem_cons_self, inside⟩
    · exact .inr ⟨other, List.mem_cons_of_mem _ among, inside⟩

/-- The domains that options list are the text of one option. -/
theorem domains_ofText {text domains : Text} (given : (ofText text).domains = some domains) :
    domains ⊆ text ∧ ',' ∉ domains := by
  obtain none | ⟨option, among, inside⟩ := domains_foldl_add given
  · cases none
  · exact ⟨List.Subset.trans inside (Text.subset_of_mem_pieces among),
      fun comma => Text.not_mem_of_mem_pieces among (inside comma)⟩

end Options

theorem mem_domainItems {domains item : Text} (listed : item ∈ domainItems domains) :
    item ⊆ domains ∧ '|' ∉ item ∧ item ≠ [] := by
  obtain ⟨trimmed, filled⟩ := List.mem_filter.mp listed
  obtain ⟨part, among, rfl⟩ := List.mem_map.mp trimmed
  refine ⟨List.Subset.trans (Text.trim_subset part) (Text.subset_of_mem_pieces among), ?_, ?_⟩
  · intro bar
    exact Text.not_mem_of_mem_pieces among (Text.trim_subset part bar)
  · simpa using filled

end Rule

end FilterList
