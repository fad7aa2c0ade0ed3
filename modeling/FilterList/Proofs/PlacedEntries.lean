import FilterList.Line
import FilterList.Proofs.RuleParts

/-! What can come of a rule at all, whatever its text. An entry is cut out of the text and of the
kind that its table takes. The table keeps to third-party requests and to pages of the listed
domains as the options want it, and makes an exception only for a mark or a tilde. -/

namespace FilterList

/-- The body is cut out of the text, and there is something in it. -/
def Body.DrawnFrom (text : Text) : Body → Prop
  | .segments parts => (∀ segment ∈ parts.toList, segment ⊆ text ∧ '*' ∉ segment) ∧
      ∃ segment ∈ parts.toList, segment ≠ []
  | .regex pattern => pattern.source ⊆ text ∧ pattern.source ≠ []

theorem Body.DrawnFrom.mono {text whole : Text} {body : Body} (drawn : body.DrawnFrom text)
    (within : text ⊆ whole) : body.DrawnFrom whole := by
  cases body with
  | segments parts =>
    obtain ⟨each, filled⟩ := drawn
    refine ⟨?_, filled⟩
    intro segment among
    obtain ⟨inside, noStar⟩ := each segment among
    exact ⟨List.Subset.trans inside within, noStar⟩
  | regex pattern => exact ⟨List.Subset.trans drawn.1 within, drawn.2⟩

/-- The table is for pages of domains or for all, for third-party requests or for all, and for
regular expressions or for segments. -/
structure Table.Takes (table : Table) (limited thirdParty regex : Bool) : Prop where
  scope : table.scope = ⟨limited, thirdParty⟩
  anchor : regex = decide (table.anchor = .whole)

namespace Rule

/-- The domain is a listed one without its tilde. A block of third-party requests takes off no more
than one tilde, and all other rules take off every one. -/
def Lists (thirdParty : Bool) (domains : Option Text) (domain : Text) : Prop :=
  ∃ list, domains = some list ∧ ∃ item ∈ domainItems list, domain <:+ item ∧ domain ≠ [] ∧
    (thirdParty = false → domain = item.dropWhile (· == '~'))

/-- Whatever entries come of a rule are of a kind. -/
def Places (kind : Placement → Prop) (outcome : Except Rejection (List Placement)) : Prop :=
  ∀ placements, outcome = .ok placements → ∀ placement ∈ placements, kind placement

end Rule

/-- The entry and its table follow a rule of this text for these parties and domains, which is
marked as an exception or not. -/
structure Placement.Follows (marked thirdParty : Bool) (domains : Option Text) (text : Text)
    (placement : Placement) : Prop where
  drawn : placement.entry.body.DrawnFrom text
  takes : placement.table.Takes placement.entry.domain.isSome thirdParty placement.entry.isRegex
  listed : ∀ domain, placement.entry.domain = some domain → Rule.Lists thirdParty domains domain
  limited : placement.entry.domain = none → thirdParty = true ∨ domains = none
  polarity : placement.table.isException = marked ∨ marked = false ∧ '~' ∈ text

theorem Placement.Follows.mono {marked thirdParty : Bool} {domains : Option Text}
    {text whole : Text} {placement : Placement}
    (follows : placement.Follows marked thirdParty domains text) (within : text ⊆ whole) :
    placement.Follows marked thirdParty domains whole where
  drawn := follows.drawn.mono within
  takes := follows.takes
  listed := follows.listed
  limited := follows.limited
  polarity := follows.polarity.imp_right fun ⟨unmarked, tilde⟩ => ⟨unmarked, within tilde⟩

namespace Rule

section Outcomes
variable {kind : Placement → Prop}

theorem Places.error {reason : Rejection} : Places kind (.error reason) := by
  intro placements placed
  cases placed

theorem Places.ok {placements : List Placement} (each : ∀ placement ∈ placements, kind placement) :
    Places kind (.ok placements) := by
  intro others placed
  cases placed
  exact each

theorem Places.bind {α : Type} {part : Except Rejection α}
    {next : α → Except Rejection (List Placement)}
    (each : ∀ value, part = .ok value → Places kind (next value)) :
    Places kind (part >>= next) := by
  cases part with
  | error reason => exact .error
  | ok value => exact each value rfl

theorem Places.orNoUsableDomain {placements : List Placement}
    (each : ∀ placement ∈ placements, kind placement) :
    Places kind (orNoUsableDomain placements) := by
  unfold Rule.orNoUsableDomain
  split
  · exact .error
  · exact .ok each

end Outcomes

theorem toList_of_split? {pattern : Text} {limit : Nat} {segments : Segments}
    (split : Segments.split? pattern limit = some segments) :
    segments.toList = pattern.pieces '*' := by
  dsimp only [Segments.split?] at split
  split at split
  · exact Segments.ofList?_eq_some_iff.mp split
  · cases split

theorem toText_of_segmentsOf {pattern : Text} {limit : Nat} {segments : Segments}
    (kept : segmentsOf pattern limit = .ok segments) : segments.toText = pattern := by
  unfold segmentsOf at kept
  split at kept
  · cases kept
  · split at kept
    next found =>
      cases kept
      rw [Segments.toText, toList_of_split? found, Text.join_pieces]
    next => cases kept

theorem segmentsOf_drawn {pattern : Text} {limit : Nat} {segments : Segments}
    (kept : segmentsOf pattern limit = .ok segments) :
    (Body.segments segments).DrawnFrom pattern := by
  unfold segmentsOf at kept
  split at kept
  · cases kept
  · next notStars =>
    have parts : segments.toList = pattern.pieces '*' := by
      split at kept
      next found =>
        cases kept
        exact toList_of_split? found
      next => cases kept
    refine ⟨?_, ?_⟩
    · intro segment among
      rw [parts] at among
      exact ⟨Text.subset_of_mem_pieces among, Text.not_mem_of_mem_pieces among⟩
    · have other : ∃ c ∈ pattern, c ≠ '*' := by simpa using notStars
      obtain ⟨c, inside, noStar⟩ := other
      rw [← Text.join_pieces '*' pattern] at inside
      obtain star | ⟨segment, among, within⟩ := Text.mem_join inside
      · exact absurd (List.mem_singleton.mp star) noStar
      · exact ⟨segment, parts ▸ among, List.ne_nil_of_mem within⟩

theorem segmentsOf_cases {pattern : Text} (solid : ∃ c ∈ pattern, c ≠ '*') {limit : Nat}
    (bounded : limit ≤ maxSegments) :
    (∃ segments : Segments, segments.toList = pattern.pieces '*' ∧
      (pattern.pieces '*').length ≤ limit ∧ segmentsOf pattern limit = .ok segments) ∨
    limit < (pattern.pieces '*').length ∧
      segmentsOf pattern limit = .error (.tooManySegments limit) := by
  have filled : pattern.all (· == '*') = false := by simpa using solid
  rw [segmentsOf, filled, if_neg Bool.false_ne_true, Segments.split?]
  by_cases few : (pattern.pieces '*').length ≤ limit
  · let segments : Segments :=
      ⟨pattern.pieces '*', Text.pieces_ne_nil '*' pattern, Nat.le_trans few bounded⟩
    have kept : Segments.ofList? (pattern.pieces '*') = some segments :=
      Segments.ofList?_eq_some_iff.mpr rfl
    exact .inl ⟨segments, rfl, few, by rw [if_pos few, kept]⟩
  · exact .inr ⟨Nat.lt_of_not_le few, by rw [if_neg few]⟩

theorem regexOf_drawn {pattern : Text} {expression : UrlPattern}
    (kept : regexOf pattern = .ok expression) : (Body.regex expression).DrawnFrom pattern := by
  unfold regexOf at kept
  dsimp only at kept
  split at kept
  · cases kept
  · next filled =>
    cases kept
    exact ⟨regexSource_subset pattern, by simpa [RegexLibrary.Pattern.ofSource] using filled⟩

theorem eq_of_placePattern {table : Table} {pattern : Text} {limit : Nat}
    {placements : List Placement} (kept : placePattern table pattern limit = .ok placements) :
    ∃ segments : Segments, placements = [⟨table, none, .segments segments⟩] ∧
      segments.toText = pattern := by
  unfold placePattern at kept
  cases parts : segmentsOf pattern limit with
  | error reason =>
    rw [parts] at kept
    cases kept
  | ok segments =>
    rw [parts] at kept
    exact ⟨segments, (Except.ok.inj kept).symm, toText_of_segmentsOf parts⟩

section Placing
variable {marked thirdParty : Bool} {domains : Option Text} {text pattern list : Text}
  {table : Table} (polarity : table.isException = marked ∨ marked = false ∧ '~' ∈ text)
include polarity

theorem single_follows {body : Body} (drawn : body.DrawnFrom text)
    (takes : table.Takes false thirdParty body.isRegex)
    (limited : thirdParty = true ∨ domains = none) :
    Places (·.Follows marked thirdParty domains text) (.ok [⟨table, none, body⟩]) :=
  .ok (List.forall_mem_singleton.mpr ⟨drawn, takes, nofun, fun _ => limited, polarity⟩)

theorem placePattern_follows {limit : Nat} (within : pattern ⊆ text)
    (takes : table.Takes false thirdParty false) (limited : thirdParty = true ∨ domains = none) :
    Places (·.Follows marked thirdParty domains text) (placePattern table pattern limit) := by
  apply Places.bind
  intro segments kept
  exact single_follows polarity ((segmentsOf_drawn kept).mono within) takes limited

theorem placeRegex_follows (within : pattern ⊆ text) (takes : table.Takes false thirdParty true)
    (limited : thirdParty = true ∨ domains = none) :
    Places (·.Follows marked thirdParty domains text) (placeRegex table pattern) := by
  apply Places.bind
  intro expression kept
  exact single_follows polarity ((regexOf_drawn kept).mono within) takes limited

theorem placeForDomains_follows {body : Body} (drawn : body.DrawnFrom text)
    (takes : table.Takes true thirdParty body.isRegex) :
    Places (·.Follows marked thirdParty (some list) text) (placeForDomains table list body) := by
  apply Places.orNoUsableDomain
  intro placement placed
  obtain ⟨item, kept, rfl⟩ := List.mem_map.mp placed
  obtain ⟨listed, positive⟩ := List.mem_filter.mp kept
  refine ⟨drawn, takes, ?_, nofun, polarity⟩
  rintro domain ⟨⟩
  refine ⟨list, rfl, item, listed, List.suffix_refl _, (mem_domainItems listed).2.2, fun _ => ?_⟩
  cases item with
  | nil => rfl
  | cons c rest =>
    have noTilde : c ≠ '~' := by simpa [isNegated] using positive
    rw [List.dropWhile_cons_of_neg (by simpa using noTilde)]

theorem segmentsForDomains_follows {limit : Nat} (within : pattern ⊆ text)
    (takes : table.Takes true thirdParty false) :
    Places (·.Follows marked thirdParty (some list) text)
      (do placeForDomains table list (.segments (← segmentsOf pattern limit))) := by
  apply Places.bind
  intro segments kept
  exact placeForDomains_follows polarity ((segmentsOf_drawn kept).mono within) takes

theorem regexForDomains_follows (within : pattern ⊆ text)
    (takes : table.Takes true thirdParty true) :
    Places (·.Follows marked thirdParty (some list) text)
      (do placeForDomains table list (.regex (← regexOf pattern))) := by
  apply Places.bind
  intro expression kept
  exact placeForDomains_follows polarity ((regexOf_drawn kept).mono within) takes

theorem placeStartForDomains_follows (within : pattern ⊆ text)
    (takes : table.Takes true thirdParty false) :
    Places (·.Follows marked thirdParty (some list) text)
      (placeStartForDomains table list pattern) := by
  apply Places.bind
  intro _ _
  exact segmentsForDomains_follows polarity within takes

end Placing

section Exceptions
variable {text pattern : Text}

theorem thirdPartyException_follows (within : pattern ⊆ text) (domains : Option Text) :
    Places (·.Follows true true domains text) (thirdPartyException pattern domains) := by
  unfold thirdPartyException
  cases domains with
  | none => exact placePattern_follows (.inl rfl) within ⟨rfl, rfl⟩ (.inl rfl)
  | some list =>
    cases cut : ['|'].isPrefixOf? pattern with
    | none => exact segmentsForDomains_follows (.inl rfl) within ⟨rfl, rfl⟩
    | some pinned =>
      have inside := List.Subset.trans (Text.subset_of_isPrefixOf? cut) within
      exact segmentsForDomains_follows (.inl rfl) inside ⟨rfl, rfl⟩

theorem domainException_follows (within : pattern ⊆ text) (list : Text) :
    Places (·.Follows true false (some list) text) (domainException pattern list) := by
  unfold domainException
  split
  next pinned _ cut =>
    have inside := List.Subset.trans (Text.subset_of_isPrefixOf? cut) within
    exact placeStartForDomains_follows (.inl rfl) inside ⟨rfl, rfl⟩
  next pinned _ cut =>
    have inside := List.Subset.trans (Text.subset_of_isSuffixOf? cut) within
    exact segmentsForDomains_follows (.inl rfl) inside ⟨rfl, rfl⟩
  next =>
    split
    · exact .error
    · exact segmentsForDomains_follows (.inl rfl) within ⟨rfl, rfl⟩

end Exceptions

section Blocks
variable {text pattern list : Text}

theorem eq_cons_of_exempt? {item exempt : Text} (cut : exempt? item = some exempt) :
    item = '~' :: exempt ∧ exempt ≠ [] := by
  unfold exempt? at cut
  split at cut
  · obtain ⟨filled, same⟩ := Option.ite_none_left_eq_some.mp cut
    cases same
    exact ⟨rfl, by simpa using filled⟩
  · cases cut

theorem mixedThirdParty_follows (within : pattern ⊆ text) (listed : list ⊆ text) :
    Places (·.Follows false true (some list) text) (mixedThirdParty pattern list) := by
  apply Places.bind
  intro segments kept
  have drawn := (segmentsOf_drawn kept).mono within
  apply Places.orNoUsableDomain
  intro placement placed
  obtain limited | everywhere := List.mem_append.mp placed
  · obtain ⟨item, among, made⟩ := List.mem_filterMap.mp limited
    obtain ⟨inList, _, filled⟩ := mem_domainItems among
    split at made
    next =>
      -- A negated domain is taken without its tilde, and that tilde stands in the rule.
      obtain ⟨exempt, cut, rfl⟩ := Option.map_eq_some_iff.mp made
      obtain ⟨rfl, named⟩ := eq_cons_of_exempt? cut
      refine ⟨drawn, ⟨rfl, rfl⟩, ?_, nofun, .inr ⟨rfl, listed (inList List.mem_cons_self)⟩⟩
      rintro domain ⟨⟩
      exact ⟨list, rfl, _, among, List.suffix_cons .., named, nofun⟩
    next =>
      cases made
      refine ⟨drawn, ⟨rfl, rfl⟩, ?_, nofun, .inl rfl⟩
      rintro domain ⟨⟩
      exact ⟨list, rfl, _, among, List.suffix_refl _, filled, nofun⟩
  · split at everywhere
    · cases List.mem_singleton.mp everywhere
      exact ⟨drawn, ⟨rfl, rfl⟩, nofun, fun _ => .inl rfl, .inl rfl⟩
    · cases everywhere

theorem thirdPartyBlock_follows (within : pattern ⊆ text) {domains : Option Text}
    (listed : ∀ list, domains = some list → list ⊆ text) :
    Places (·.Follows false true domains text) (thirdPartyBlock pattern domains) := by
  unfold thirdPartyBlock
  split
  next pinned _ cut =>
    have inside := List.Subset.trans (Text.subset_of_isPrefixOf? cut) within
    exact placePattern_follows (.inl rfl) inside ⟨rfl, rfl⟩ (.inl rfl)
  next pinned list _ cut =>
    have inside := List.Subset.trans (Text.subset_of_isPrefixOf? cut) within
    exact placeStartForDomains_follows (.inl rfl) inside ⟨rfl, rfl⟩
  next =>
    split
    · exact placeRegex_follows (.inl rfl) within ⟨rfl, rfl⟩ (.inl rfl)
    · have inside := List.Subset.trans (Text.dropEndWhile_subset isStar pattern) within
      exact placePattern_follows (.inl rfl) inside ⟨rfl, rfl⟩ (.inl rfl)
  next list _ =>
    split
    · exact regexForDomains_follows (.inl rfl) within ⟨rfl, rfl⟩
    · exact mixedThirdParty_follows within (listed _ rfl)

theorem domainBlock_follows (within : pattern ⊆ text) (listed : list ⊆ text) :
    Places (·.Follows false false (some list) text) (domainBlock pattern list) := by
  unfold domainBlock
  split
  next tilde =>
    apply Places.bind
    intro segments kept
    have inside := List.Subset.trans (Text.dropEndWhile_subset isStar pattern) within
    apply Places.orNoUsableDomain
    intro placement placed
    obtain ⟨domain, exempt, rfl⟩ := List.mem_map.mp placed
    obtain ⟨among, filled⟩ := List.mem_filter.mp exempt
    obtain ⟨item, inList, rfl⟩ := List.mem_map.mp among
    refine ⟨(segmentsOf_drawn kept).mono inside, ⟨rfl, rfl⟩, ?_, nofun, .inr ⟨rfl, ?_⟩⟩
    · rintro domain ⟨⟩
      exact ⟨list, rfl, item, inList, List.dropWhile_suffix _, by simpa using filled, fun _ => rfl⟩
    · exact listed (by simpa using tilde)
  next =>
    split
    · exact .error
    · split
      next pinned _ cut =>
        have inside := List.Subset.trans (Text.subset_of_isPrefixOf? cut) within
        exact placeStartForDomains_follows (.inl rfl) inside ⟨rfl, rfl⟩
      next pinned _ cut =>
        have inside := List.Subset.trans (Text.subset_of_isSuffixOf? cut) within
        exact segmentsForDomains_follows (.inl rfl) inside ⟨rfl, rfl⟩
      next =>
        split
        · exact regexForDomains_follows (.inl rfl) within ⟨rfl, rfl⟩
        · exact segmentsForDomains_follows (.inl rfl) within ⟨rfl, rfl⟩

theorem plainBlock_follows (line : Text) (within : pattern ⊆ text) (finalLimit : Nat) :
    Places (·.Follows false false none text) (plainBlock line pattern finalLimit) := by
  unfold plainBlock
  split
  next pinned _ cut =>
    have inside := List.Subset.trans (Text.subset_of_isPrefixOf? cut) within
    exact placePattern_follows (.inl rfl) inside ⟨rfl, rfl⟩ (.inr rfl)
  next pinned _ cut =>
    have inside := List.Subset.trans (Text.subset_of_isSuffixOf? cut) within
    split
    · exact .error
    · exact placePattern_follows (.inl rfl) inside ⟨rfl, rfl⟩ (.inr rfl)
  next => exact placePattern_follows (.inl rfl) within ⟨rfl, rfl⟩ (.inr rfl)

theorem unlimitedBlock_follows (line : Text) {rule : Text} (inRule : rule ⊆ text)
    (within : pattern ⊆ text) (options : Option Text) :
    Places (·.Follows false false none text) (unlimitedBlock line rule pattern options) := by
  have noStars {part : Text} (inside : part ⊆ text) : dropStars part ⊆ text :=
    List.Subset.trans (Text.dropEndWhile_subset isStar part) inside
  unfold unlimitedBlock
  split
  next tilde =>
    have written : '~' ∈ rule := by simpa using (Bool.and_eq_true_iff.mp tilde).2
    exact placePattern_follows (.inr ⟨rfl, inRule written⟩) (noStars within) ⟨rfl, rfl⟩ (.inr rfl)
  next =>
    split
    · exact placeRegex_follows (.inl rfl) within ⟨rfl, rfl⟩ (.inr rfl)
    · split
      · refine plainBlock_follows line (List.Subset.trans ?_ inRule) _
        exact List.Subset.trans (Text.dropTail_subset ..) (Text.dropLead_subset ..)
      · refine plainBlock_follows line (noStars ?_) _
        split
        · exact inRule
        · exact within

end Blocks

def Options.ofRule (rule : Text) : Options := ((splitOptions rule).2.map ofText).getD {}

/-- The options that a rule is read with. Without a mark before it a bar at its end hides them. -/
def optionsRead : Bool → Text → Options
  | true, rule => .ofRule rule
  | false, rule =>
    match ['|'].isSuffixOf? rule with
    | some _ => {}
    | none => .ofRule rule

theorem Options.domains_ofRule {rule list : Text} (given : (ofRule rule).domains = some list) :
    list ⊆ rule ∧ ',' ∉ list := by
  unfold ofRule at given
  cases cut : (splitOptions rule).2 with
  | none =>
    rw [cut] at given
    cases given
  | some options =>
    rw [cut] at given
    obtain ⟨inOptions, noComma⟩ := domains_ofText given
    exact ⟨List.Subset.trans inOptions (options_subset cut), noComma⟩

theorem domains_optionsRead {marked : Bool} {rule list : Text}
    (given : (optionsRead marked rule).domains = some list) : list ⊆ rule ∧ ',' ∉ list := by
  cases marked with
  | true => exact Options.domains_ofRule given
  | false =>
    dsimp only [optionsRead] at given
    split at given
    · cases given
    · exact Options.domains_ofRule given

theorem exception_follows (entry : Text) :
    Places (·.Follows true (optionsRead true (entry.dropLead "||".toList)).thirdParty
        (optionsRead true (entry.dropLead "||".toList)).domains entry) (exception entry) := by
  have inEntry : entry.dropLead "||".toList ⊆ entry := Text.dropLead_subset ..
  have inPattern := List.Subset.trans (pattern_subset (entry.dropLead "||".toList)) inEntry
  dsimp only [exception, optionsRead, Options.ofRule]
  split
  next cut =>
    rw [cut]
    split
    next pinned bar =>
      have inside := List.Subset.trans (Text.subset_of_isSuffixOf? bar) inEntry
      exact placePattern_follows (.inl rfl) inside ⟨rfl, rfl⟩ (.inr rfl)
    next => exact placePattern_follows (.inl rfl) inEntry ⟨rfl, rfl⟩ (.inr rfl)
  next pattern options cut =>
    rw [cut] at inPattern ⊢
    dsimp only [Option.map_some, Option.getD_some]
    split
    · exact .error
    · split
      next party =>
        rw [party]
        exact thirdPartyException_follows inPattern _
      next party =>
        rw [Bool.eq_false_iff.mpr party]
        cases (Options.ofText options).domains with
        | none => exact .error
        | some list => exact domainException_follows inPattern list

theorem blocking_follows (line : Text) :
    Places (·.Follows false (optionsRead false (line.dropLead "||".toList)).thirdParty
        (optionsRead false (line.dropLead "||".toList)).domains line) (blocking line) := by
  have inLine : line.dropLead "||".toList ⊆ line := Text.dropLead_subset ..
  dsimp only [blocking, optionsRead]
  cases bar : ['|'].isSuffixOf? (line.dropLead "||".toList) with
  | some pinned =>
    have inside := List.Subset.trans (Text.subset_of_isSuffixOf? bar) inLine
    exact placePattern_follows (.inl rfl) (List.Subset.trans (Text.dropLead_subset ..) inside)
      ⟨rfl, rfl⟩ (.inr rfl)
  | none =>
    have inPattern := List.Subset.trans (pattern_subset (line.dropLead "||".toList)) inLine
    have inLimited := List.Subset.trans
      (Text.dropLead_subset (splitOptions (line.dropLead "||".toList)).1 "||".toList) inPattern
    have listed : ∀ list, (Options.ofRule (line.dropLead "||".toList)).domains = some list →
        list ⊆ line := fun _ given =>
      List.Subset.trans (Options.domains_ofRule given).1 inLine
    dsimp only [Options.ofRule] at listed ⊢
    generalize ((splitOptions (line.dropLead "||".toList)).2.map Options.ofText).getD {} = options
      at listed ⊢
    split
    · exact .error
    · split
      next party =>
        rw [party]
        exact thirdPartyBlock_follows inLimited listed
      next party =>
        rw [Bool.eq_false_iff.mpr party]
        cases given : options.domains with
        | some list => exact domainBlock_follows inLimited (listed list given)
        | none => exact unlimitedBlock_follows line inLine inPattern _

end Rule

namespace Line

def isMarked (line : Text) : Bool := "@@".toList.isPrefixOf (content line)

/-- The rule on a line, without the marks before it. Blank lines, comments and cosmetic lines have
none. -/
def rule? (line : Text) : Option Text :=
  let content := content line
  if content.isEmpty || isCosmetic content || isComment content then none
  else some ((content.dropLead "@@".toList).dropLead "||".toList)

theorem Outcome.ofRule_injective {outcome other : Except Rule.Rejection (List Placement)}
    (same : Outcome.ofRule outcome = Outcome.ofRule other) : outcome = other := by
  cases outcome <;> cases other <;> cases same <;> rfl

/-- A line is kept or dropped only by its rule, which is an exception where a mark stands before it
and a block elsewhere. -/
theorem rule_of_outcome {line : Text} {result : Except Rule.Rejection (List Placement)}
    (came : outcome line = .ofRule result) :
    (∃ entry, isMarked line = true ∧ content line = "@@".toList ++ entry ∧
      rule? line = some (entry.dropLead "||".toList) ∧ result = Rule.exception entry) ∨
    (isMarked line = false ∧ rule? line = some ((content line).dropLead "||".toList) ∧
      result = Rule.blocking (content line)) := by
  unfold outcome outcomeOf at came
  split at came
  · cases result <;> cases came
  · split at came
    · cases result <;> cases came
    · split at came
      · cases result <;> cases came
      · next filled shown spoken =>
        have written : rule? line =
            some (((content line).dropLead "@@".toList).dropLead "||".toList) :=
          if_neg (by simp [filled, shown, spoken])
        split at came
        next entry cut =>
          have shape := List.isPrefixOf?_eq_some_iff_append_eq.mp cut
          refine .inl ⟨entry, ?_, shape.symm, ?_, (Outcome.ofRule_injective came).symm⟩
          · exact List.isPrefixOf_iff_prefix.mpr ⟨entry, shape⟩
          · rw [written, ← shape, Text.dropLead_append]
        next cut =>
          have noMark : ¬ "@@".toList <+: content line := by
            intro ⟨entry, shape⟩
            rw [List.isPrefixOf?_eq_some_iff_append_eq.mpr shape] at cut
            cases cut
          refine .inr ⟨?_, ?_, (Outcome.ofRule_injective came).symm⟩
          · rw [isMarked, ← Bool.not_eq_true, List.isPrefixOf_iff_prefix]
            exact noMark
          · rw [written, Text.dropLead_eq_self noMark]

theorem accepted_of_placed {line : Text} {placement : Placement}
    (placed : placement ∈ (outcome line).placements) :
    ∃ placements, outcome line = .ofRule (.ok placements) ∧ placement ∈ placements := by
  cases shape : outcome line with
  | accepted placements => exact ⟨placements, rfl, by rwa [shape] at placed⟩
  | blank | comment _ | cosmetic | dropped _ =>
    rw [shape] at placed
    cases placed

theorem follows_of_placed {line : Text} {placement : Placement}
    (placed : placement ∈ (outcome line).placements) :
    ∃ rule, rule? line = some rule ∧
      placement.Follows (isMarked line) (Rule.optionsRead (isMarked line) rule).thirdParty
        (Rule.optionsRead (isMarked line) rule).domains (content line) := by
  obtain ⟨placements, kept, among⟩ := accepted_of_placed placed
  obtain ⟨entry, marked, shape, written, read⟩ | ⟨unmarked, written, read⟩ := rule_of_outcome kept
  · refine ⟨_, written, ?_⟩
    rw [marked, shape]
    exact (Rule.exception_follows entry placements read.symm placement among).mono
      (List.subset_append_right ..)
  · refine ⟨_, written, ?_⟩
    rw [unmarked]
    exact Rule.blocking_follows _ placements read.symm placement among

/-- A line marked as an exception places nothing but exceptions, if anything at all. -/
theorem isException_of_marked {line : Text} (marked : "@@".toList <+: content line)
    {placement : Placement} (placed : placement ∈ (outcome line).placements) :
    placement.table.isException = true := by
  obtain ⟨_, _, follows⟩ := follows_of_placed placed
  have read : isMarked line = true := List.isPrefixOf_iff_prefix.mpr marked
  rw [read] at follows
  obtain same | ⟨unmarked, _⟩ := follows.polarity
  · exact same
  · cases unmarked

end Line

end FilterList
