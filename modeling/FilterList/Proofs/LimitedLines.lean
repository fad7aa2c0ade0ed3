import FilterList.Proofs.OptionedLines
import FilterList.Proofs.PlacedEntries
import FilterList.Proofs.RuleReading

/-! Lines that limit a rule to the pages of listed domains, whatever rule stands before the options.
What kind of line it is shows in the rule, but for the marks of cosmetic lines, which a domain may have
as well. A bar at the end of the list would pin the pattern of a block, and has no such meaning in an
exception. -/

namespace FilterList

/-- The options that limit a rule to pages of domains, and maybe to third-party requests there. -/
def domainOptions (thirdParty : Bool) (domains : Text) : Text :=
  (if thirdParty then "third-party,".toList else []) ++ "domain=".toList ++ domains

def limitedLine (rule : Text) (thirdParty : Bool) (domains : Text) : Text :=
  rule ++ '$' :: domainOptions thirdParty domains

theorem domainOptions_eq_key_append (thirdParty : Bool) : ∃ key : Text,
    key.all isWritten = true ∧ '$' ∉ key ∧
      ∀ domains, domainOptions thirdParty domains = key ++ '=' :: domains := by
  cases thirdParty with
  | true => exact ⟨"third-party,domain".toList, by decide, by decide, fun _ => rfl⟩
  | false => exact ⟨"domain".toList, by decide, by decide, fun _ => rfl⟩

theorem getLast?_domainOptions (thirdParty : Bool) {domains : Text} {c : Char} (other : c ≠ '=') :
    (domainOptions thirdParty domains).getLast? = some c ↔ domains.getLast? = some c := by
  obtain ⟨key, _, _, shape⟩ := domainOptions_eq_key_append thirdParty
  rw [shape, List.getLast?_append, List.getLast?_cons]
  cases domains.getLast? <;> simp [other.symm]

namespace Rule

theorem Options.ofText_domainOptions (thirdParty : Bool) {domains : Text} (noComma : ',' ∉ domains) :
    Options.ofText (domainOptions thirdParty domains) =
      { thirdParty := thirdParty, domains := some (Text.trimEnd domains) } := by
  have alone : Text.pieces ',' ("domain=".toList ++ domains) = ["domain=".toList ++ domains] :=
    Text.pieces_of_not_mem (by simp [noComma])
  cases thirdParty with
  | true =>
    have whole : domainOptions true domains =
        "third-party".toList ++ ',' :: ("domain=".toList ++ domains) := rfl
    have first : Text.pieces ',' "third-party".toList = ["third-party".toList] := by decide
    simp only [Options.ofText, whole, Text.pieces_append_separator, first, alone,
      List.singleton_append, List.foldl_cons, List.foldl_nil, Options.add_thirdParty,
      Options.add_domainList]
  | false =>
    have whole : domainOptions false domains = "domain=".toList ++ domains := rfl
    simp only [Options.ofText, whole, alone, List.foldl_cons, List.foldl_nil,
      Options.add_domainList]

/-- The dollar sign between the two is the one that the rule is cut at, and the domains are one
option. -/
structure Separable (rule domains : Text) : Prop where
  noDollar : '$' ∉ rule
  plain : ∀ c ∈ domains, c ≠ ',' ∧ c ≠ '$'
  closed : '\\' ∈ rule ++ domains → domains.getLast? ≠ some '/'

theorem Separable.of_subset {rule part domains : Text} (separable : Separable rule domains)
    (within : part ⊆ rule) : Separable part domains where
  noDollar dollar := separable.noDollar (within dollar)
  plain := separable.plain
  closed escaped := separable.closed <|
    (List.mem_append.mp escaped).elim (fun inPart => List.mem_append_left _ (within inPart))
      (List.mem_append_right _)

def limitedTo (rule : Text) (thirdParty : Bool) (domains : Text) :
    Except Rejection (List Placement) :=
  match "@@".toList.isPrefixOf? rule with
  | some entry =>
    let pattern := Text.dropLead entry "||".toList
    if thirdParty then thirdPartyException pattern (some domains)
    else domainException pattern domains
  | none =>
    let pattern := Text.dropLead (Text.dropLead rule "||".toList) "||".toList
    if thirdParty then thirdPartyBlock pattern (some domains) else domainBlock pattern domains

section Reading
variable {rule domains : Text} (separable : Separable rule domains) (thirdParty : Bool)
include separable

theorem splitOptions_limitedLine :
    splitOptions (limitedLine rule thirdParty domains) =
      (rule, some (domainOptions thirdParty domains)) := by
  obtain ⟨key, written, noDollar, shape⟩ := domainOptions_eq_key_append thirdParty
  apply splitOptions_of_dollar separable.noDollar
  · rw [shape, List.mem_append, List.mem_cons, not_or, not_or]
    exact ⟨noDollar, by decide, fun listed => (separable.plain _ listed).2 rfl⟩
  · intro escaped
    rw [ne_eq, getLast?_domainOptions thirdParty (by decide)]
    apply separable.closed
    rw [shape, List.mem_append, List.mem_append, List.mem_cons] at escaped
    obtain inRule | inKey | equal | listed := escaped
    · exact List.mem_append_left _ inRule
    · exact absurd (List.all_eq_true.mp written _ inKey) (by decide)
    · exact absurd equal (by decide)
    · exact List.mem_append_right _ listed

theorem ofText_limitedLine :
    Options.ofText (domainOptions thirdParty domains) =
      { thirdParty := thirdParty, domains := some (Text.trimEnd domains) } :=
  Options.ofText_domainOptions thirdParty fun comma => (separable.plain _ comma).1 rfl

theorem exception_limitedLine :
    exception (limitedLine rule thirdParty domains) =
      if thirdParty then
        thirdPartyException (Text.dropLead rule "||".toList) (some (Text.trimEnd domains))
      else domainException (Text.dropLead rule "||".toList) (Text.trimEnd domains) := by
  have cut := splitOptions_limitedLine
    (separable.of_subset (Text.dropLead_subset rule "||".toList)) thirdParty
  rw [limitedLine, exception_append_dollar cut]
  simp only [ofText_limitedLine separable, Bool.false_eq_true, if_false]

theorem blocking_limitedLine (unpinned : domains.getLast? ≠ some '|') :
    blocking (limitedLine rule thirdParty domains) =
      if thirdParty then
        thirdPartyBlock (Text.dropLead (Text.dropLead rule "||".toList) "||".toList)
          (some (Text.trimEnd domains))
      else domainBlock (Text.dropLead (Text.dropLead rule "||".toList) "||".toList)
        (Text.trimEnd domains) := by
  have cut := splitOptions_limitedLine
    (separable.of_subset (Text.dropLead_subset rule "||".toList)) thirdParty
  have unbarred : (domainOptions thirdParty domains).getLast? ≠ some '|' :=
    mt (getLast?_domainOptions thirdParty (by decide)).mp unpinned
  rw [limitedLine, blocking_append_dollar unbarred cut]
  simp only [ofText_limitedLine separable, Bool.false_eq_true, if_false]

end Reading

end Rule

namespace Line

variable (rule : Text) (thirdParty : Bool) (domains : Text)

theorem hasCosmeticMark_domainOptions :
    hasCosmeticMark (domainOptions thirdParty domains) = hasCosmeticMark domains := by
  cases thirdParty with
  | true => exact hasCosmeticMark_append_cons (by decide) "third-party,domain".toList domains
  | false => exact hasCosmeticMark_append_cons (by decide) "domain".toList domains

variable {domains} in
/-- Read without its carets and the white space around it, the line is one of the same kind. -/
theorem content_limitedLine (noCaret : '^' ∉ domains) :
    content (limitedLine rule thirdParty domains) =
      limitedLine (opening rule) thirdParty (Text.trimEnd domains) := by
  obtain ⟨key, written, _, shape⟩ := domainOptions_eq_key_append thirdParty
  have absent : '^' ∉ domainOptions thirdParty domains := by
    rw [shape, List.mem_append, List.mem_cons, not_or, not_or]
    exact ⟨fun caret => absurd (List.all_eq_true.mp written _ caret) (by decide), by decide, noCaret⟩
  rw [limitedLine, content_append_dollar rule absent, limitedLine, shape, shape,
    Text.trimEnd_append_cons (by decide)]

/-- What a line without carets and white space around it is, if it limits a rule to domains. -/
theorem outcomeOf_limitedLine {rule domains : Text} (separable : Rule.Separable rule domains)
    (unpinned : "@@".toList <+: rule ∨ domains.getLast? ≠ some '|') :
    outcomeOf (limitedLine rule thirdParty domains) =
      if isCosmetic rule || hasCosmeticMark domains then .cosmetic
      else if isComment rule then .comment (headerValue? (limitedLine rule thirdParty domains))
      else .ofRule (Rule.limitedTo rule thirdParty (Text.trimEnd domains)) := by
  rw [limitedLine, outcomeOf_append_dollar, hasCosmeticMark_domainOptions, Rule.limitedTo]
  congr 2
  cases cut : "@@".toList.isPrefixOf? rule with
  | some entry =>
    have within : entry ⊆ rule := Text.subset_of_isPrefixOf? cut
    exact congrArg Outcome.ofRule
      (Rule.exception_limitedLine (separable.of_subset within) thirdParty)
  | none =>
    have unmarked : ¬ "@@".toList <+: rule := by
      rintro ⟨entry, same⟩
      rw [List.isPrefixOf?_eq_some_iff_append_eq.mpr same] at cut
      cases cut
    exact congrArg Outcome.ofRule
      (Rule.blocking_limitedLine separable thirdParty (unpinned.resolve_left unmarked))

end Line

end FilterList
