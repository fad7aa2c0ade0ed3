import FilterList.Line
import FilterList.Proofs.WrittenRule

/-! Reading the text of a written rule gives its parts back: the pattern with its bars, what the
options say, and the domains. As a line, the text is a rule. -/

namespace FilterList

namespace Rule

theorem Options.add_thirdParty (options : Options) :
    options.add "third-party".toList = { options with thirdParty := true } := by
  have solid : Text.trim "third-party".toList = "third-party".toList := by decide
  rw [add, solid]
  rfl

theorem Options.add_domainList (options : Options) (domains : Text) :
    options.add ("domain=".toList ++ domains) =
      { options with domains := some (Text.trimEnd domains) } := by
  have trimmed : Text.trim ("domain=".toList ++ domains) =
      "domain=".toList ++ Text.trimEnd domains :=
    Text.trim_append_cons (by decide : Text.isBlank '=' = false) "domain".toList domains
  have cut : "domain=".toList.isPrefixOf? ("domain=".toList ++ Text.trimEnd domains) =
      some (Text.trimEnd domains) := List.isPrefixOf?_eq_some_iff_append_eq.mpr rfl
  have noParty : "domain=".toList ++ Text.trimEnd domains ≠ "third-party".toList := by simp
  have noOtherParty : "domain=".toList ++ Text.trimEnd domains ≠ "~third-party".toList := by simp
  simp only [add, trimmed, cut, if_neg noParty, if_neg noOtherParty]

theorem Options.add_domains (options : Options) {domains : Text}
    (solid : ∀ c ∈ domains, Text.isBlank c = false) :
    options.add ("domain=".toList ++ domains) = { options with domains := some domains } := by
  rw [add_domainList, Text.trimEnd_eq_self (Text.SolidAtEnds.of_solid solid).stop]

/-- Domains written one after the other are read back as they are, if none of them is blank or has
white space at its ends. -/
theorem domainItems_join_of_trimmed {items : List Text}
    (solid : ∀ item ∈ items, item ≠ [] ∧ Text.trim item = item ∧ '|' ∉ item) :
    domainItems (Text.join ['|'] items) = items := by
  by_cases listed : items = []
  · rw [listed]
    rfl
  have cut : (Text.join ['|'] items).pieces '|' = items :=
    Text.pieces_join listed fun item member => (solid item member).2.2
  have trimmed : items.map Text.trim = items := by
    conv_rhs => rw [← List.map_id items]
    exact List.map_congr_left fun item member => (solid item member).2.1
  rw [domainItems, cut, trimmed]
  apply List.filter_eq_self.mpr
  intro item member
  simpa using (solid item member).1

theorem domainItems_join {items : List Text}
    (solid : ∀ item ∈ items, item ≠ [] ∧ ∀ c ∈ item, Text.isBlank c = false ∧ c ≠ '|') :
    domainItems (Text.join ['|'] items) = items := by
  apply domainItems_join_of_trimmed
  intro item member
  obtain ⟨filled, plain⟩ := solid item member
  exact ⟨filled, Text.trim_eq_self fun c inside => (plain c inside).1, fun bar => (plain _ bar).2 rfl⟩

end Rule

theorem Pin.dropStars_write (pin : Pin) (pattern : WrittenPattern) :
    Rule.dropStars (pin.write pattern.text) = pin.write pattern.text := by
  obtain ⟨before, c, shape, noStar⟩ := pin.exists_write_concat pattern
  rw [shape]
  exact Text.dropEndWhile_concat before (beq_eq_false_iff_ne.mpr noStar)

namespace WrittenRule
variable (rule : WrittenRule)

theorem splitOptions_body : Rule.splitOptions rule.body = (rule.written, rule.optionText?) := by
  have noEscape : rule.body.contains '\\' = false := rule.not_contains_body (by decide)
  have noDollar : '$' ∉ rule.written := fun member => (rule.isWritten_written member).2 rfl
  unfold Rule.splitOptions
  -- Only a backslash would make a dollar sign between slashes part of the pattern.
  rw [noEscape, Bool.and_false, if_neg Bool.false_ne_true, Rule.splitOptions.atFirstDollar, body]
  cases rule.optionText? with
  | none => simp [Text.cut?_eq_none noDollar]
  | some options => simp [Text.cut?_append noDollar]

theorem ofText_optionText? :
    (rule.optionText?.map Rule.Options.ofText).getD {} =
      { thirdParty := rule.thirdParty, domains := rule.domainText? } := by
  have solid : ∀ c ∈ rule.domainText, Text.isBlank c = false := fun _ member =>
    not_isBlank_of_isWritten (rule.isWritten_domainText member).1
  have read : rule.options.foldl Rule.Options.add {} =
      { thirdParty := rule.thirdParty, domains := rule.domainText? } := by
    unfold options domainText?
    cases rule.thirdParty <;> by_cases listed : rule.domains = [] <;>
      simp only [listed, if_true, if_false, Bool.false_eq_true, Option.toList_none,
        Option.toList_some, List.map_nil, List.map_cons, List.append_nil, List.nil_append,
        List.singleton_append, List.foldl_cons, List.foldl_nil, Rule.Options.add_thirdParty,
        Rule.Options.add_domains _ solid]
  unfold optionText?
  by_cases none : rule.options = []
  · rw [if_pos none]
    rw [none] at read
    exact read
  · rw [if_neg none, Option.map_some, Option.getD_some, Rule.Options.ofText]
    rw [Text.pieces_join none fun _ member comma => (rule.isWritten_options member comma).2 rfl]
    exact read

theorem domainItems_domainText :
    Rule.domainItems rule.domainText = rule.domains.map WrittenDomain.text := by
  apply Rule.domainItems_join
  intro item member
  obtain ⟨domain, _, rfl⟩ := List.mem_map.mp member
  refine ⟨domain.text_ne_nil, ?_⟩
  intro c inside
  obtain ⟨plain, _, noBar⟩ := domain.isWritten_text inside
  exact ⟨not_isBlank_of_isWritten plain, noBar⟩

end WrittenRule

namespace Line

theorem content_eq_self {line : Text} (solid : Text.SolidAtEnds line) (noCaret : '^' ∉ line) :
    content line = line := by
  rw [content, Text.trim_eq_self_iff.mpr solid]
  apply List.filter_eq_self.mpr
  intro c member
  apply decide_eq_true
  rintro rfl
  exact noCaret member

theorem content_of_written {line : Text} (plain : ∀ c ∈ line, isWritten c = true) :
    content line = line := by
  have solid : ∀ c ∈ line, Text.isBlank c = false := fun c member =>
    not_isBlank_of_isWritten (plain c member)
  apply content_eq_self (.of_solid solid)
  intro caret
  exact absurd (plain _ caret) (by decide)

theorem not_isCosmetic {line : Text} (plain : ∀ c ∈ line, isWritten c = true)
    (noBracket : line.head? ≠ some '[') : isCosmetic line = false := by
  have absent {mark : Text} (hash : '#' ∈ mark) : Text.occurs mark line = false := by
    rw [← Bool.not_eq_true, Text.occurs_iff_isInfix]
    intro inside
    exact absurd (plain _ (inside.subset hash)) (by decide)
  simp [isCosmetic, noBracket, absent]

theorem not_isComment {line : Text} (plain : ∀ c ∈ line, isWritten c = true)
    (noComment : line.head? ≠ some '!') : isComment line = false := by
  have noHash : line.head? ≠ some '#' := by
    intro hash
    exact absurd (plain _ (List.mem_of_head? hash)) (by decide)
  simp [isComment, noComment, noHash]

/-- A line of written characters, opened by no mark of another kind of line, is a rule. -/
theorem outcome_of_written {line : Text} (plain : ∀ c ∈ line, isWritten c = true)
    (filled : line ≠ []) (noBracket : line.head? ≠ some '[') (noComment : line.head? ≠ some '!') :
    outcome line =
      match "@@".toList.isPrefixOf? line with
      | some rule => .ofRule (Rule.exception rule)
      | none => .ofRule (Rule.blocking line) := by
  have notEmpty : line.isEmpty = false := by simpa using filled
  rw [outcome, content_of_written plain, outcomeOf, notEmpty, not_isCosmetic plain noBracket,
    not_isComment plain noComment]
  rfl

end Line

namespace WrittenRule
variable (rule : WrittenRule)

theorem content_exceptionText : Line.content rule.exceptionText = rule.exceptionText :=
  Line.content_of_written fun _ member => rule.isWritten_exceptionText member

theorem outcome_exceptionText :
    Line.outcome rule.exceptionText = .ofRule (Rule.exception rule.text) := by
  have cut : "@@".toList.isPrefixOf? rule.exceptionText = some rule.text :=
    List.isPrefixOf?_eq_some_iff_append_eq.mpr rfl
  rw [Line.outcome_of_written (fun _ member => rule.isWritten_exceptionText member)
    (by simp [exceptionText]) (by simp [exceptionText]) (by simp [exceptionText]), cut]

theorem outcome_block (opens : rule.pattern.OpensBlock) :
    Line.outcome rule.text = .ofRule (Rule.blocking rule.text) := by
  have plain : ∀ c ∈ rule.text, isWritten c = true := fun _ member => rule.isWritten_text member
  obtain bar | ⟨rest, shape, follows⟩ := rule.opening_text
  · obtain ⟨rest, shape⟩ := List.head?_eq_some_iff.mp bar
    have noException : "@@".toList.isPrefixOf? rule.text = none :=
      Text.isPrefixOf?_eq_none (by simp [shape])
    rw [Line.outcome_of_written plain (by simp [shape]) (by simp [shape]) (by simp [shape]),
      noException]
  · obtain ⟨c, after, opening, _⟩ := rule.pattern.exists_first_cons
    simp only [WrittenPattern.OpensBlock, List.mem_cons, List.not_mem_nil, or_false,
      forall_eq_or_imp, forall_eq, opening] at opens
    obtain ⟨noComment, noBracket, noException⟩ := opens
    rw [opening] at shape
    have noMark : "@@".toList.isPrefixOf? rule.text = none := by
      apply Text.isPrefixOf?_eq_none
      rw [shape]
      intro mark
      -- A first segment of one character needs what follows it to make up the mark.
      cases after with
      | nil =>
        obtain ⟨_, ⟨_, rfl⟩⟩ := List.cons_prefix_cons.mp mark
        exact follows rfl
      | cons d after => exact noException (by simpa using mark)
    rw [Line.outcome_of_written plain (by simp [shape]) ?_ ?_, noMark]
    · simpa [shape, eq_comm] using noBracket
    · simpa [shape, eq_comm] using noComment

end WrittenRule

end FilterList
