import FilterList.Proofs.CompilerRun
import FilterList.Proofs.LimitedLines

/-! A rule for several domains is the same rule for each of them, one after the other. Every function
that places a rule on pages of domains makes one entry for each, with the same body in the same table,
or refuses the rule whatever the domains are. -/

namespace FilterList

/-- Domains of a list, none of them negated. -/
structure DomainNames where
  toList : List Text
  ne_nil : toList ≠ []
  literal : ∀ name ∈ toList, name ≠ [] ∧ name.all isDomainLiteral = true

namespace DomainNames
variable (names : DomainNames)

def text : Text := Text.join ['|'] names.toList

def single {name : Text} (listed : name ∈ names.toList) : DomainNames where
  toList := [name]
  ne_nil := List.cons_ne_nil _ _
  literal := List.forall_mem_singleton.mpr (names.literal name listed)

variable {names}

theorem isLiteral_of_mem {name : Text} (listed : name ∈ names.toList) {c : Char}
    (inside : c ∈ name) : isLiteral c = true ∧ c ≠ ',' ∧ c ≠ '/' := by
  have literal := List.all_eq_true.mp (names.literal name listed).2 c inside
  simpa [isDomainLiteral] using literal

theorem mem_text {c : Char} (inside : c ∈ names.text) :
    c = '|' ∨ isLiteral c = true ∧ c ≠ ',' ∧ c ≠ '/' := by
  obtain bar | ⟨name, listed, inName⟩ := Text.mem_join inside
  · exact .inl (List.mem_singleton.mp bar)
  · exact .inr (isLiteral_of_mem listed inName)

theorem not_mem_text {c : Char} (noBar : c ≠ '|') (special : isLiteral c = false) :
    c ∉ names.text := by
  intro inside
  have literal := ((mem_text inside).resolve_left noBar).1
  rw [special] at literal
  cases literal

theorem getLast?_text {c : Char} (last : names.text.getLast? = some c) :
    isLiteral c = true ∧ c ≠ ',' ∧ c ≠ '/' := by
  have among := List.getLast_mem names.ne_nil
  obtain ⟨front, whole⟩ := Text.getLast_suffix_join ['|'] names.ne_nil
  rw [text, ← whole, List.getLast?_append_of_ne_nil _ (names.literal _ among).1] at last
  exact isLiteral_of_mem among (List.mem_of_getLast? last)

theorem domainItems_text : Rule.domainItems names.text = names.toList := by
  apply Rule.domainItems_join
  intro name listed
  refine ⟨(names.literal name listed).1, fun c inside => ?_⟩
  have literal := (isLiteral_of_mem listed inside).1
  exact ⟨not_isBlank_of_isWritten (isWritten_of_isLiteral literal),
    ne_of_isLiteral literal (by decide)⟩

theorem isNegated_of_mem {name : Text} (listed : name ∈ names.toList) :
    Rule.isNegated name = false := by
  rw [Rule.isNegated, beq_eq_false_iff_ne]
  intro tilde
  have literal := (isLiteral_of_mem listed (List.mem_of_head? tilde)).1
  exact absurd literal (by decide)

theorem filter_positive : names.toList.filter (!Rule.isNegated ·) = names.toList :=
  List.filter_eq_self.mpr fun name listed => by rw [isNegated_of_mem listed]; rfl

theorem exempt?_of_mem {name : Text} (listed : name ∈ names.toList) : Rule.exempt? name = none := by
  unfold Rule.exempt?
  split
  · exact absurd (isNegated_of_mem listed) (by simp [Rule.isNegated])
  · rfl

theorem trimEnd_text : Text.trimEnd names.text = names.text :=
  Text.trimEnd_eq_self fun _ last =>
    not_isBlank_of_isWritten (isWritten_of_isLiteral (getLast?_text last).1)

end DomainNames

namespace Rule

/-- Every list of domains makes one entry for each domain, or none of them does. -/
def Spreads (place : Text → Except Rejection (List Placement)) : Prop :=
  ∃ form : Except Rejection (Table × Body), ∀ names : DomainNames, place names.text =
    form.map fun (table, body) => names.toList.map fun name => ⟨table, some name, body⟩

section Outcomes
variable {place other : Text → Except Rejection (List Placement)}

theorem Spreads.error {reason : Rejection} : Spreads fun _ => .error reason :=
  ⟨.error reason, fun _ => rfl⟩

theorem Spreads.congr (spreads : Spreads other)
    (same : ∀ names : DomainNames, place names.text = other names.text) : Spreads place := by
  obtain ⟨form, placed⟩ := spreads
  exact ⟨form, fun names => (same names).trans (placed names)⟩

theorem Spreads.bind {α : Type} {part : Except Rejection α}
    {next : α → Text → Except Rejection (List Placement)} (each : ∀ value, Spreads (next value)) :
    Spreads fun domains => part >>= (next · domains) := by
  cases part with
  | error reason => exact .error
  | ok value => exact each value

end Outcomes

section Placing
variable (table : Table)

theorem placeForDomains_spreads (body : Body) : Spreads (placeForDomains table · body) := by
  refine ⟨.ok (table, body), fun names => ?_⟩
  have filled : (names.toList.map fun name =>
      (⟨table, some name, body⟩ : Placement)).isEmpty = false := by
    simpa using names.ne_nil
  simp only [placeForDomains, DomainNames.domainItems_text, DomainNames.filter_positive,
    orNoUsableDomain, filled]
  rfl

theorem segmentsForDomains_spreads (pattern : Text) (limit : Nat) :
    Spreads fun domains => segmentsOf pattern limit >>= fun segments =>
      placeForDomains table domains (.segments segments) :=
  .bind fun _ => placeForDomains_spreads table _

theorem regexForDomains_spreads (pattern : Text) :
    Spreads fun domains => regexOf pattern >>= fun expression =>
      placeForDomains table domains (.regex expression) :=
  .bind fun _ => placeForDomains_spreads table _

theorem placeStartForDomains_spreads (pattern : Text) :
    Spreads (placeStartForDomains table · pattern) :=
  .bind fun _ => segmentsForDomains_spreads table pattern maxSegments

end Placing

section Functions
variable (pattern : Text)

theorem thirdPartyException_spreads :
    Spreads fun domains => thirdPartyException pattern (some domains) :=
  segmentsForDomains_spreads _ _ _

theorem domainException_spreads : Spreads (domainException pattern) := by
  unfold domainException
  split
  · exact placeStartForDomains_spreads _ _
  · exact segmentsForDomains_spreads _ _ _
  · refine (segmentsForDomains_spreads .exceptionDomain pattern 4).congr fun names => ?_
    have positive : (domainItems names.text).any isNegated = false := by
      rw [DomainNames.domainItems_text, List.any_eq_false]
      intro name listed
      rw [DomainNames.isNegated_of_mem listed]
      exact Bool.false_ne_true
    rw [positive, if_neg Bool.false_ne_true]

theorem mixedThirdParty_spreads : Spreads (mixedThirdParty pattern) := by
  refine (segmentsForDomains_spreads .blockThirdPartyDomain pattern maxSegments).congr
    fun names => ?_
  have noneExempt : names.toList.any (fun name => (exempt? name).isSome) = false := by
    rw [List.any_eq_false]
    intro name listed
    rw [DomainNames.exempt?_of_mem listed]
    exact Bool.false_ne_true
  have limited (body : Body) : (names.toList.filterMap fun name =>
      if isNegated name then
        (exempt? name).map fun exempt => Placement.mk .exceptionThirdPartyDomain ⟨some exempt, body⟩
      else some ⟨.blockThirdPartyDomain, some name, body⟩) =
      names.toList.map fun name => ⟨.blockThirdPartyDomain, some name, body⟩ := by
    rw [← List.filterMap_eq_map]
    apply List.filterMap_congr
    intro name listed
    rw [DomainNames.isNegated_of_mem listed]
    rfl
  simp only [mixedThirdParty, placeForDomains, DomainNames.domainItems_text, limited, noneExempt,
    DomainNames.filter_positive, Bool.false_eq_true, if_false, List.append_nil]

theorem thirdPartyBlock_spreads : Spreads fun domains => thirdPartyBlock pattern (some domains) := by
  unfold thirdPartyBlock
  cases ['|'].isPrefixOf? pattern with
  | some pinned => exact placeStartForDomains_spreads _ _
  | none =>
    dsimp only
    split
    · exact regexForDomains_spreads _ _
    · exact mixedThirdParty_spreads _

theorem domainBlock_spreads : Spreads (domainBlock pattern) := by
  have positive (names : DomainNames) : names.text.contains '~' = false := by
    rw [List.contains_eq_mem, decide_eq_false_iff_not]
    exact DomainNames.not_mem_text (by decide) (by decide)
  -- Nothing but the branch for tildes looks at the domains, so the other conditions come first.
  by_cases empty : pattern.isEmpty = true
  · refine (Spreads.error : Spreads fun _ => .error .emptyPattern).congr fun names => ?_
    simp only [domainBlock, positive names, empty, Bool.false_eq_true, if_false, if_true]
  cases front : ['|'].isPrefixOf? pattern with
  | some pinned =>
    refine (placeStartForDomains_spreads .blockDomainInitial pinned).congr fun names => ?_
    simp only [domainBlock, positive names, empty, front, Bool.false_eq_true, if_false]
  | none =>
    cases back : ['|'].isSuffixOf? pattern with
    | some pinned =>
      refine (segmentsForDomains_spreads .blockDomainFinal pinned maxSegments).congr
        fun names => ?_
      simp only [domainBlock, positive names, empty, front, back, Bool.false_eq_true, if_false]
    | none =>
      by_cases escaped : pattern.contains '\\' = true
      · refine (regexForDomains_spreads .blockDomainRegex pattern).congr fun names => ?_
        simp only [domainBlock, positive names, empty, front, back, escaped, Bool.false_eq_true,
          if_false, if_true]
      · refine (segmentsForDomains_spreads .blockDomain pattern 3).congr fun names => ?_
        simp only [domainBlock, positive names, empty, front, back, escaped, Bool.false_eq_true,
          if_false]

/-- A rule that is limited to domains has one entry for each of them, or is refused. -/
theorem limitedTo_spreads (rule : Text) (thirdParty : Bool) : Spreads (limitedTo rule thirdParty) := by
  unfold limitedTo
  split
  · cases thirdParty with
    | true => exact thirdPartyException_spreads _
    | false => exact domainException_spreads _
  · cases thirdParty with
    | true => exact thirdPartyBlock_spreads _
    | false => exact domainBlock_spreads _

end Functions

end Rule

namespace Line

theorem Outcome.placements_of_spreads {place : Text → Except Rule.Rejection (List Placement)}
    (spreads : Rule.Spreads place) (names : DomainNames) :
    (ofRule (place names.text)).placements =
      names.toList.flatMap fun name => (ofRule (place name)).placements := by
  obtain ⟨form, placed⟩ := spreads
  have alone (name : Text) (listed : name ∈ names.toList) := placed (names.single listed)
  rw [placed names]
  cases form with
  | error reason =>
    refine (List.flatMap_eq_nil_iff.mpr fun name listed => ?_).symm
    exact congrArg (fun result => (ofRule result).placements) (alone name listed)
  | ok made =>
    obtain ⟨table, body⟩ := made
    refine List.map_eq_flatMap.trans (List.flatMap_congr fun name listed => ?_)
    exact congrArg (fun result => (ofRule result).placements) (alone name listed).symm

section Names
variable {rule : Text} (noDollar : '$' ∉ rule) (thirdParty : Bool)
include noDollar

theorem separable_names (names : DomainNames) : Rule.Separable (opening rule) names.text where
  noDollar dollar := noDollar (opening_subset rule dollar)
  plain c inside := by
    obtain rfl | ⟨literal, noComma, _⟩ := DomainNames.mem_text inside
    · decide
    · exact ⟨noComma, ne_of_isLiteral literal (by decide)⟩
  closed _ slash := (DomainNames.getLast?_text slash).2.2 rfl

/-- Whether the line is a rule at all shows before the domains. -/
theorem placements_of_names (names : DomainNames) :
    (outcome (limitedLine rule thirdParty names.text)).placements =
      if isCosmetic (opening rule) || isComment (opening rule) then []
      else (Outcome.ofRule (Rule.limitedTo (opening rule) thirdParty names.text)).placements := by
  have unpinned : names.text.getLast? ≠ some '|' := fun bar =>
    absurd (DomainNames.getLast?_text bar).1 (by decide)
  have unmarked : hasCosmeticMark names.text = false := by
    rw [← Bool.not_eq_true, hasCosmeticMark_iff]
    rintro ⟨mark, among, inside⟩
    have hash : ∀ mark ∈ ["##".toList, "#@#".toList, "#?#".toList], '#' ∈ mark := by decide
    exact DomainNames.not_mem_text (by decide) (by decide) (inside.subset (hash mark among))
  have noCaret : '^' ∉ names.text := DomainNames.not_mem_text (by decide) (by decide)
  rw [outcome, content_limitedLine rule thirdParty noCaret, DomainNames.trimEnd_text,
    outcomeOf_limitedLine thirdParty (separable_names noDollar names) (.inr unpinned), unmarked,
    Bool.or_false, DomainNames.trimEnd_text]
  cases isCosmetic (opening rule) <;> cases isComment (opening rule) <;> rfl

theorem placements_names (names : DomainNames) :
    (outcome (limitedLine rule thirdParty names.text)).placements =
      names.toList.flatMap fun name => (outcome (limitedLine rule thirdParty name)).placements := by
  have alone : names.toList.flatMap
      (fun name => (outcome (limitedLine rule thirdParty name)).placements) =
      names.toList.flatMap fun name =>
        if isCosmetic (opening rule) || isComment (opening rule) then []
        else (Outcome.ofRule (Rule.limitedTo (opening rule) thirdParty name)).placements :=
    List.flatMap_congr fun name listed =>
      placements_of_names noDollar thirdParty (names.single listed)
  rw [alone, placements_of_names noDollar]
  split
  · exact (List.flatMap_eq_nil_iff.mpr fun name listed => rfl).symm
  · exact Outcome.placements_of_spreads (Rule.limitedTo_spreads _ thirdParty) names

end Names

end Line

namespace Compilation

/-- A list of domains distributes over its domains: the line makes the entries that lines for each
domain make one after the other, and none where each of those is refused. -/
theorem table_of_names (rule : Text) (noDollar : '$' ∉ rule) (thirdParty : Bool)
    (names : DomainNames) (table : Table) :
    (ofLines [limitedLine rule thirdParty names.text]).rules.table table =
      (ofLines (names.toList.map (limitedLine rule thirdParty))).rules.table table := by
  rw [RuleSet.table, RuleSet.table, rules_ofLine, placements_ofLines, List.flatMap_map,
    Line.placements_names noDollar]

/-- A regular expression with a caret in it, for third-party requests on pages of two domains. -/
theorem table_of_names_regex :
    let rule := "||/ad^\\d+/".toList
    let names : DomainNames := ⟨["a.test".toList, "b.test".toList], by decide, by decide⟩
    let compiled := ofLines [limitedLine rule true names.text]
    '$' ∉ rule ∧ (compiled.rules.table .blockThirdPartyDomainRegex).map Entry.domain =
      [some "a.test".toList, some "b.test".toList] ∧
    ∀ table, compiled.rules.table table =
      (ofLines [limitedLine rule true "a.test".toList,
        limitedLine rule true "b.test".toList]).rules.table table := by
  intro rule names compiled
  have noDollar : '$' ∉ rule := by decide
  exact ⟨noDollar, by decide +kernel, table_of_names rule noDollar true names⟩

end Compilation

end FilterList
