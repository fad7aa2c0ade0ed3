import FilterList.Proofs.FurtherLines
import FilterList.Proofs.LimitedLines
import FilterList.Proofs.RuleReading
import FilterList.Proofs.TableHits

/-! Stars at the end of a block that has options. Most functions drop them before they count the
segments. A block on pages of domains keeps them, as empty segments that match anywhere, so they do
nothing but use up its limit. -/

namespace FilterList

theorem Subscriptions.isBlocked_congr {rules others : RuleSet} (same : rules.SameHits others)
    (before after : List RuleSet) (request : Request) :
    (decide ⟨before ++ rules :: after⟩ request).decision.isBlocked =
      (decide ⟨before ++ others :: after⟩ request).decision.isBlocked := by
  have blocks : rules.Blocks request ↔ others.Blocks request := by
    simp only [RuleSet.Blocks, same request]
  have excepts : rules.Excepts request ↔ others.Excepts request := by
    simp only [RuleSet.Excepts, same request]
  rw [Bool.eq_iff_iff, isBlocked_decide_iff, isBlocked_decide_iff]
  simp only [List.mem_append, List.mem_cons, or_and_right, exists_or, exists_eq_left, blocks, excepts]

theorem Compilation.Prepared.sameHits {lines : List Text} {rules : RuleSet}
    (prepared : Prepared lines rules) : rules.SameHits (ofLines lines).rules := by
  intro request table
  simp only [RuleSet.hits_iff_placed, prepared.mem_placements]

/-- A table and the page domain of an entry in it. -/
structure Spot where
  table : Table
  domain : Option Text

def Spot.place (body : Body) (spot : Spot) : Placement := ⟨spot.table, spot.domain, body⟩

/-- Empty segments are found in any URL. -/
theorem Spot.fires_padded {spot : Spot} (anywhere : spot.table.anchor = .anywhere)
    {segments padded : Segments} {count : Nat}
    (same : padded.toList = segments.toList ++ List.replicate count []) (request : Request) :
    (spot.place (.segments padded)).fires request =
      (spot.place (.segments segments)).fires request := by
  have found : occurIn (List.replicate count []) request.resource = true := by
    rw [occurIn_iff]
    intro segment among
    rw [List.eq_of_mem_replicate among]
    exact List.nil_infix
  have split (first second : List Text) (url : Text) :
      occurIn (first ++ second) url = (occurIn first url && occurIn second url) :=
    List.all_append
  simp only [Placement.fires, Entry.fires, place, anywhere, same, split, found, Bool.and_true]

theorem RuleSet.sameHits_padded {spots : List Spot}
    (anywhere : ∀ spot ∈ spots, spot.table.anchor = .anywhere) {segments padded : Segments}
    {count : Nat} (same : padded.toList = segments.toList ++ List.replicate count []) :
    SameHits ⟨{}, spots.map (Spot.place (.segments padded))⟩
      ⟨{}, spots.map (Spot.place (.segments segments))⟩ := by
  intro request table
  simp only [hits_iff_placed, List.mem_map, exists_exists_and_eq_and]
  apply exists_congr
  intro spot
  apply and_congr_right
  intro among
  rw [Spot.fires_padded (anywhere spot among) same]
  rfl

namespace Rule

theorem placements_orNoUsableDomain (placements : List Placement) :
    (Line.Outcome.ofRule (orNoUsableDomain placements)).placements = placements := by
  cases placements <;> rfl

/-- Where a block of third-party requests on pages of domains has its entries. -/
def mixedSpots (domains : Text) : List Spot :=
  ((domainItems domains).filterMap fun domain =>
    if isNegated domain then
      (exempt? domain).map fun exempt => ⟨.exceptionThirdPartyDomain, some exempt⟩
    else some ⟨.blockThirdPartyDomain, some domain⟩) ++
  if (domainItems domains).any fun domain => (exempt? domain).isSome then
    [⟨.blockThirdParty, none⟩] else []

theorem mixedThirdParty_eq (pattern domains : Text) :
    mixedThirdParty pattern domains = segmentsOf pattern maxSegments >>= fun segments =>
      orNoUsableDomain ((mixedSpots domains).map (Spot.place (.segments segments))) := by
  apply bind_congr
  intro segments
  unfold mixedSpots
  rw [List.map_append, List.map_filterMap]
  dsimp only
  congr 2
  · apply List.filterMap_congr
    intro domain _
    split
    · rw [Option.map_map]
      rfl
    · rfl
  · split <;> rfl

theorem anchor_mixedSpots {domains : Text} :
    ∀ spot ∈ mixedSpots domains, spot.table.anchor = .anywhere := by
  intro spot among
  obtain limited | everywhere := List.mem_append.mp among
  · obtain ⟨item, _, made⟩ := List.mem_filterMap.mp limited
    split at made
    · obtain ⟨_, _, rfl⟩ := Option.map_eq_some_iff.mp made
      rfl
    · cases made
      rfl
  · split at everywhere
    · rw [List.mem_singleton.mp everywhere]
      rfl
    · cases everywhere

theorem unusable_iff {item : Text} :
    isNegated item = true ∧ exempt? item = none ↔ item = ['~'] := by
  constructor
  · rintro ⟨negated, none⟩
    obtain ⟨rest, rfl⟩ := List.head?_eq_some_iff.mp (beq_iff_eq.mp negated)
    simpa [exempt?] using none
  · rintro rfl
    exact ⟨rfl, rfl⟩

/-- A tilde with nothing behind it is no domain, and anything else is. -/
theorem mixedSpots_eq_nil_iff {domains : Text} :
    mixedSpots domains = [] ↔ ∀ item ∈ domainItems domains, item = ['~'] := by
  rw [mixedSpots, List.append_eq_nil_iff, List.filterMap_eq_nil_iff]
  constructor
  · rintro ⟨unplaced, _⟩ item listed
    apply unusable_iff.mp
    have none := unplaced item listed
    split at none
    next negated => exact ⟨negated, Option.map_eq_none_iff.mp none⟩
    next => cases none
  · intro unusable
    have exempts {item : Text} (listed : item ∈ domainItems domains) :=
      unusable_iff.mpr (unusable item listed)
    refine ⟨fun item listed => ?_, if_neg ?_⟩
    · rw [if_pos (exempts listed).1, (exempts listed).2, Option.map_none]
    · rw [List.any_eq_true]
      rintro ⟨item, listed, some⟩
      rw [(exempts listed).2] at some
      cases some

/-- Where a block of all requests on pages of domains has its entries. -/
def limitedSpots (domains : Text) : List Spot :=
  ((domainItems domains).filter (!isNegated ·)).map fun domain => ⟨.blockDomain, some domain⟩

theorem anchor_limitedSpots {domains : Text} :
    ∀ spot ∈ limitedSpots domains, spot.table.anchor = .anywhere := by
  intro spot among
  obtain ⟨_, _, rfl⟩ := List.mem_map.mp among
  rfl

theorem limitedSpots_eq_nil_iff {domains : Text} (noTilde : '~' ∉ domains) :
    limitedSpots domains = [] ↔ ∀ item ∈ domainItems domains, item = ['~'] := by
  rw [limitedSpots, List.map_eq_nil_iff, List.filter_eq_nil_iff]
  apply forall₂_congr
  intro item listed
  have free : '~' ∉ item := fun tilde => noTilde ((mem_domainItems listed).1 tilde)
  have positive : isNegated item = false := by
    rw [isNegated, beq_eq_false_iff_ne]
    exact fun head => free (List.mem_of_head? head)
  constructor
  · intro negated
    rw [positive] at negated
    exact absurd rfl negated
  · rintro rfl
    exact absurd List.mem_cons_self free

end Rule

/-- A block that is pinned nowhere and has options. -/
structure OptionedRule where
  pattern : Text
  options : Text
  plain : pattern.all (fun c => isWritten c && c != '|' && c != '$') = true
  unstarred : ∃ c ∈ pattern.getLast?, c ≠ '*'
  opens : ∀ mark ∈ ["!".toList, "[".toList, "@@".toList], ¬ mark <+: pattern
  plainOptions : options.all (fun c => isWritten c && c != '$') = true
  unbarred : ∃ c ∈ options.getLast?, c ≠ '|'
  notFile : options ≠ "file".toList

namespace OptionedRule
variable (rule : OptionedRule) (stars : Nat)

def starred : Text := rule.pattern ++ List.replicate stars '*'

/-- The rule with so many stars behind its pattern. -/
def text : Text := rule.starred stars ++ '$' :: rule.options

/-- The most segments that the pattern may have, if stars at its end count. They do not where they
are dropped or where there is no domain to place an entry for. -/
def limit? : Option Nat :=
  let options := Rule.Options.ofText rule.options
  if options.notThirdParty then none
  else match options.domains with
    | none => none
    | some domains =>
      if (Rule.domainItems domains).all (· == ['~']) then none
      else if options.thirdParty then some maxSegments
      else if domains.contains '~' then none
      else some 3

/-- The pattern has its place without the stars, and too many segments with them. -/
def Outgrows : Prop :=
  ∃ limit ∈ rule.limit?, rule.pattern.count '*' < limit ∧ limit ≤ rule.pattern.count '*' + stars

theorem mem_starred {c : Char} (inside : c ∈ rule.starred stars) :
    isWritten c = true ∧ c ≠ '|' ∧ c ≠ '$' := by
  obtain inPattern | star := List.mem_append.mp inside
  · have plain := List.all_eq_true.mp rule.plain c inPattern
    simpa [and_assoc] using plain
  · rw [List.eq_of_mem_replicate star]
    decide

theorem mem_options {c : Char} (inside : c ∈ rule.options) : isWritten c = true ∧ c ≠ '$' := by
  have plain := List.all_eq_true.mp rule.plainOptions c inside
  simpa using plain

theorem exists_pattern_concat : ∃ before c, rule.pattern = before ++ [c] ∧ c ≠ '*' := by
  obtain ⟨c, last, noStar⟩ := rule.unstarred
  obtain ⟨before, whole⟩ := List.getLast?_eq_some_iff.mp last
  exact ⟨before, c, whole, noStar⟩

theorem starred_ne_nil : rule.starred stars ≠ [] := by
  obtain ⟨before, c, whole, _⟩ := rule.exists_pattern_concat
  simp [starred, whole]

theorem dropStars_starred : Rule.dropStars (rule.starred stars) = rule.pattern := by
  obtain ⟨before, c, whole, noStar⟩ := rule.exists_pattern_concat
  have turned : (rule.starred stars).reverse = List.replicate stars '*' ++ c :: before.reverse := by
    simp [starred, whole]
  rw [Rule.dropStars, Text.dropEndWhile, turned, List.dropWhile_append_of_pos, whole]
  · simp [Rule.isStar, noStar]
  · intro star among
    rw [List.eq_of_mem_replicate among]
    rfl

theorem pieces_starred :
    (rule.starred stars).pieces '*' = rule.pattern.pieces '*' ++ List.replicate stars [] :=
  Text.pieces_append_replicate '*' _ _

/-- What begins the line begins the pattern. -/
theorem prefix_text_iff {mark : Text} (free : '*' ∉ mark ∧ '$' ∉ mark) :
    mark <+: rule.text stars ↔ mark <+: rule.pattern := by
  rw [text, Text.prefix_append_cons_iff free.2, starred]
  cases stars with
  | zero => rw [List.replicate_zero, List.append_nil]
  | succ stars => exact Text.prefix_append_cons_iff free.1 _ _

theorem starred_zero : rule.starred 0 = rule.pattern := List.append_nil _

theorem isWritten_text {c : Char} (inside : c ∈ rule.text stars) : isWritten c = true := by
  obtain inStarred | behind := List.mem_append.mp inside
  · exact (rule.mem_starred stars inStarred).1
  · obtain rfl | inOptions := List.mem_cons.mp behind
    · decide
    · exact (rule.mem_options inOptions).1

theorem outcome_text : Line.outcome (rule.text stars) = .ofRule (Rule.blocking (rule.text stars)) := by
  have unmarked {mark : Text} (among : mark ∈ ["!".toList, "[".toList, "@@".toList]) :
      ¬ mark <+: rule.text stars := by
    have free : ∀ mark ∈ ["!".toList, "[".toList, "@@".toList], '*' ∉ mark ∧ '$' ∉ mark := by decide
    rw [rule.prefix_text_iff stars (free mark among)]
    exact rule.opens mark among
  have noHead {c : Char} (among : [c] ∈ ["!".toList, "[".toList, "@@".toList]) :
      (rule.text stars).head? ≠ some c := by
    intro head
    obtain ⟨rest, whole⟩ := List.head?_eq_some_iff.mp head
    exact unmarked among ⟨rest, whole.symm⟩
  have filled : rule.text stars ≠ [] := by simp [text]
  rw [Line.outcome_of_written (fun c => rule.isWritten_text stars) filled (noHead (by decide))
    (noHead (by decide)), Text.isPrefixOf?_eq_none (unmarked (by decide))]

theorem blocking_text : Rule.blocking (rule.text stars) =
    let options := Rule.Options.ofText rule.options
    if options.notThirdParty then .error .notThirdParty
    else if options.thirdParty then Rule.thirdPartyBlock (rule.starred stars) options.domains
    else match options.domains with
      | some domains => Rule.domainBlock (rule.starred stars) domains
      | none => Rule.unlimitedBlock (rule.text stars) (rule.text stars) (rule.starred stars)
          rule.options := by
  have noBar : '|' ∉ rule.starred stars := fun bar => (rule.mem_starred stars bar).2.1 rfl
  have unmarked {rest : Text} (free : '|' ∉ rest) : Text.dropLead rest "||".toList = rest :=
    Text.dropLead_eq_self fun opens => free (opens.subset (by decide))
  have unpinned : rule.options.getLast? ≠ some '|' := by
    obtain ⟨c, last, other⟩ := rule.unbarred
    rw [Option.mem_def.mp last]
    exact fun bar => other (Option.some.inj bar)
  have cut : Rule.splitOptions (rule.text stars) = (rule.starred stars, some rule.options) := by
    apply Rule.splitOptions_of_dollar
    · exact fun dollar => (rule.mem_starred stars dollar).2.2 rfl
    · exact fun dollar => (rule.mem_options dollar).2 rfl
    · intro escaped
      obtain inStarred | inOptions := List.mem_append.mp escaped
      · exact absurd (rule.mem_starred stars inStarred).1 (by decide)
      · exact absurd (rule.mem_options inOptions).1 (by decide)
  have placed := Rule.blocking_append_dollar unpinned (by rwa [unmarked noBar])
  simp only [unmarked noBar] at placed
  exact placed

theorem isPrefixOf?_starred : ['|'].isPrefixOf? (rule.starred stars) = none := by
  apply Text.isPrefixOf?_eq_none
  intro opens
  exact (rule.mem_starred stars (opens.subset List.mem_cons_self)).2.1 rfl

theorem isSuffixOf?_starred : ['|'].isSuffixOf? (rule.starred stars) = none := by
  apply Text.isSuffixOf?_eq_none
  intro ends
  exact (rule.mem_starred stars (ends.subset List.mem_cons_self)).2.1 rfl

theorem contains_starred : (rule.starred stars).contains '\\' = false := by
  rw [List.contains_eq_mem, decide_eq_false_iff_not]
  exact fun escaped => absurd (rule.mem_starred stars escaped).1 (by decide)

theorem thirdPartyBlock_starred (domains : Option Text) :
    Rule.thirdPartyBlock (rule.starred stars) domains = match domains with
      | none => Rule.placePattern .blockThirdParty rule.pattern 4
      | some domains => Rule.mixedThirdParty (rule.starred stars) domains := by
  unfold Rule.thirdPartyBlock
  rw [isPrefixOf?_starred, contains_starred, dropStars_starred]
  cases domains <;> rfl

theorem domainBlock_starred {domains : Text} (noTilde : '~' ∉ domains) :
    Rule.domainBlock (rule.starred stars) domains =
      Rule.segmentsOf (rule.starred stars) 3 >>= fun segments =>
        Rule.orNoUsableDomain ((Rule.limitedSpots domains).map (Spot.place (.segments segments))) := by
  have untouched : domains.contains '~' = false := by
    rwa [List.contains_eq_mem, decide_eq_false_iff_not]
  have filled : (rule.starred stars).isEmpty = false := by
    simpa using rule.starred_ne_nil stars
  simp only [Rule.domainBlock, untouched, filled, isPrefixOf?_starred, isSuffixOf?_starred,
    contains_starred, Bool.false_eq_true, if_false, Rule.placeForDomains, Rule.limitedSpots,
    List.map_map]
  rfl

theorem domainBlock_negated {domains : Text} (tilde : '~' ∈ domains) :
    Rule.domainBlock (rule.starred stars) domains = Rule.domainBlock (rule.starred 0) domains := by
  have negated : domains.contains '~' = true := List.contains_iff_mem.mpr tilde
  simp only [Rule.domainBlock, negated, if_true, dropStars_starred]

theorem unlimitedBlock_starred :
    Rule.unlimitedBlock (rule.text stars) (rule.text stars) (rule.starred stars) rule.options =
      Rule.placePattern (if '~' ∈ rule.pattern ++ rule.options then .exception else .block)
        rule.pattern maxSegments := by
  have tilde : (rule.text stars).contains '~' = decide ('~' ∈ rule.pattern ++ rule.options) := by
    simp [text, starred, List.contains_eq_mem]
  have escaped : (rule.text stars).contains '\\' = false := by
    rw [List.contains_eq_mem, decide_eq_false_iff_not]
    exact fun inside => absurd (rule.isWritten_text stars inside) (by decide)
  have opens := rule.isPrefixOf?_starred 0
  have ends := rule.isSuffixOf?_starred 0
  rw [starred_zero] at opens ends
  simp only [Rule.unlimitedBlock, tilde, escaped, dropStars_starred, if_neg rule.notFile,
    Rule.plainBlock, opens, ends, Option.isSome_some, Bool.true_and, decide_eq_true_eq,
    Bool.false_eq_true, if_false]
  split <;> rfl

/-- What is made of the rule does not depend on its stars. -/
def Drops : Prop := ∀ stars, Rule.blocking (rule.text stars) = Rule.blocking (rule.text 0)

/-- The rule has its entries in the same places whatever its segments are, and the stars make more
segments of it. -/
structure Keeps (limit : Nat) (spots : List Spot) : Prop where
  bounded : limit ≤ maxSegments
  anywhere : ∀ spot ∈ spots, spot.table.anchor = .anywhere
  placed : ∀ stars, Rule.blocking (rule.text stars) =
    Rule.segmentsOf (rule.starred stars) limit >>= fun segments =>
      Rule.orNoUsableDomain (spots.map (Spot.place (.segments segments)))

theorem drops_or_keeps : rule.Drops ∧ rule.limit? = none ∨ ∃ limit spots, rule.Keeps limit spots ∧
    rule.limit? = if spots = [] then none else some limit := by
  have unusable (domains : Text) : (Rule.domainItems domains).all (· == ['~']) = true ↔
      ∀ item ∈ Rule.domainItems domains, item = ['~'] := by
    simp only [List.all_eq_true, beq_iff_eq]
  cases refused : (Rule.Options.ofText rule.options).notThirdParty with
  | true =>
    refine .inl ⟨fun stars => ?_, ?_⟩
    · simp only [blocking_text, refused, if_true]
    · simp only [limit?, refused, if_true]
  | false =>
    cases listed : (Rule.Options.ofText rule.options).domains with
    | none =>
      refine .inl ⟨fun stars => ?_, ?_⟩
      · simp only [blocking_text, refused, listed, thirdPartyBlock_starred, unlimitedBlock_starred]
      · simp only [limit?, refused, listed, Bool.false_eq_true, if_false]
    | some domains =>
      cases party : (Rule.Options.ofText rule.options).thirdParty with
      | true =>
        refine .inr ⟨maxSegments, Rule.mixedSpots domains,
          ⟨Nat.le_refl _, Rule.anchor_mixedSpots, fun stars => ?_⟩, ?_⟩
        · simp only [blocking_text, refused, listed, party, thirdPartyBlock_starred,
            Rule.mixedThirdParty_eq, Bool.false_eq_true, if_false, if_true]
        · simp only [limit?, refused, listed, party, unusable, Rule.mixedSpots_eq_nil_iff,
            Bool.false_eq_true, if_false, if_true]
      | false =>
        by_cases tilde : '~' ∈ domains
        · refine .inl ⟨fun stars => ?_, ?_⟩
          · simp only [blocking_text, refused, listed, party, rule.domainBlock_negated stars tilde,
              Bool.false_eq_true, if_false]
          · simp only [limit?, refused, listed, party, List.contains_iff_mem.mpr tilde, if_true,
              Bool.false_eq_true, if_false, ite_self]
        · refine .inr ⟨3, Rule.limitedSpots domains,
            ⟨by decide, Rule.anchor_limitedSpots, fun stars => ?_⟩, ?_⟩
          · simp only [blocking_text, refused, listed, party, rule.domainBlock_starred _ tilde,
              Bool.false_eq_true, if_false]
          · have untouched : domains.contains '~' = false := by
              rwa [List.contains_eq_mem, decide_eq_false_iff_not]
            simp only [limit?, refused, listed, party, unusable, untouched,
              Rule.limitedSpots_eq_nil_iff tilde, Bool.false_eq_true, if_false]

/-- With so many stars the segments are taken up, or there are too many of them. -/
theorem Keeps.blocking_cases {limit : Nat} {spots : List Spot} (keeps : rule.Keeps limit spots) :
    (rule.pattern.count '*' + stars < limit ∧ ∃ segments : Segments,
      segments.toList = rule.pattern.pieces '*' ++ List.replicate stars [] ∧
      Rule.blocking (rule.text stars) =
        Rule.orNoUsableDomain (spots.map (Spot.place (.segments segments)))) ∨
    (limit ≤ rule.pattern.count '*' + stars ∧
      Rule.blocking (rule.text stars) = .error (.tooManySegments limit)) := by
  obtain ⟨before, c, whole, noStar⟩ := rule.exists_pattern_concat
  have solid : ∃ c ∈ rule.starred stars, c ≠ '*' := ⟨c, by simp [starred, whole], noStar⟩
  have size : ((rule.starred stars).pieces '*').length = rule.pattern.count '*' + stars + 1 := by
    rw [pieces_starred, List.length_append, Text.length_pieces, List.length_replicate]
    omega
  obtain ⟨segments, same, few, kept⟩ | ⟨many, dropped⟩ := Rule.segmentsOf_cases solid keeps.bounded
  · refine .inl ⟨by omega, segments, same.trans (rule.pieces_starred stars), ?_⟩
    rw [keeps.placed, kept]
    rfl
  · refine .inr ⟨by omega, ?_⟩
    rw [keeps.placed, dropped]
    rfl

theorem sameHits (fits : ¬ rule.Outgrows stars) :
    (Compilation.ofLines [rule.text stars]).rules.SameHits
      (Compilation.ofLines [rule.text 0]).rules := by
  rw [Compilation.rules_ofRule (rule.outcome_text stars),
    Compilation.rules_ofRule (rule.outcome_text 0)]
  obtain ⟨drops, _⟩ | ⟨limit, spots, keeps, known⟩ := rule.drops_or_keeps
  · rw [drops stars]
    exact fun _ _ => Iff.rfl
  · obtain ⟨few, padded, samePadded, placedPadded⟩ | ⟨many, dropped⟩ :=
      keeps.blocking_cases rule stars
    · obtain ⟨_, segments, same, placed⟩ | ⟨many, _⟩ := keeps.blocking_cases rule 0
      · have joined : padded.toList = segments.toList ++ List.replicate stars [] := by
          rw [samePadded, same, List.replicate_zero, List.append_nil]
        rw [placedPadded, placed, Rule.placements_orNoUsableDomain,
          Rule.placements_orNoUsableDomain]
        exact RuleSet.sameHits_padded keeps.anywhere joined
      · omega
    · obtain ⟨few, segments, same, placed⟩ | ⟨_, droppedToo⟩ := keeps.blocking_cases rule 0
      · have none : spots = [] := by
          by_contra some
          exact fits ⟨limit, known.trans (if_neg some), few, many⟩
        rw [dropped, placed, none]
        exact fun _ _ => Iff.rfl
      · rw [dropped, droppedToo]
        exact fun _ _ => Iff.rfl

theorem dropped_of_outgrows (outgrows : rule.Outgrows stars) :
    (Line.outcome (rule.text 0)).placements ≠ [] ∧
      ∃ limit ∈ rule.limit?,
        Line.outcome (rule.text stars) = .dropped (.tooManySegments limit) := by
  obtain ⟨limit, given, few, many⟩ := outgrows
  rw [outcome_text, outcome_text]
  obtain ⟨_, none⟩ | ⟨other, spots, keeps, known⟩ := rule.drops_or_keeps
  · rw [none] at given
    cases given
  · rw [known] at given ⊢
    split at given
    · cases given
    next some =>
      cases given
      constructor
      · obtain ⟨_, segments, _, placed⟩ | ⟨beyond, _⟩ := keeps.blocking_cases rule 0
        · rw [placed, Rule.placements_orNoUsableDomain]
          simpa using some
        · omega
      · obtain ⟨within, _⟩ | ⟨_, dropped⟩ := keeps.blocking_cases rule stars
        · omega
        · exact ⟨limit, if_neg some, congrArg Line.Outcome.ofRule dropped⟩

/-- Stars at the end of an unpinned block with options change no verdict, unless they are too many
for a table that keeps them: then nothing is left of a rule that had its entries without them. -/
theorem trailing_stars :
    (¬ rule.Outgrows stars → ∀ plain starred : RuleSet,
      Compilation.Prepared [rule.text 0] plain → Compilation.Prepared [rule.text stars] starred →
      ∀ (before after : List RuleSet) (request : Request),
        (Subscriptions.decide ⟨before ++ starred :: after⟩ request).decision.isBlocked =
          (Subscriptions.decide ⟨before ++ plain :: after⟩ request).decision.isBlocked) ∧
    (rule.Outgrows stars → (Line.outcome (rule.text 0)).placements ≠ [] ∧
      ∃ limit ∈ rule.limit?,
        Line.outcome (rule.text stars) = .dropped (.tooManySegments limit)) := by
  refine ⟨fun fits plain starred prepared preparedStarred => ?_, rule.dropped_of_outgrows stars⟩
  apply Subscriptions.isBlocked_congr
  intro request table
  exact (preparedStarred.sameHits request table).trans
    ((rule.sameHits stars fits request table).trans (prepared.sameHits request table).symm)

/-- A pattern of three segments, limited to pages of one domain. -/
def threeSegments (thirdParty : Bool) : OptionedRule where
  pattern := "a*b*c".toList
  options := domainOptions thirdParty "p.test".toList
  plain := by decide
  unstarred := ⟨'c', by decide, by decide⟩
  opens := by decide
  plainOptions := by cases thirdParty <;> decide
  unbarred := ⟨'t', by cases thirdParty <;> decide, by decide⟩
  notFile := by cases thirdParty <;> decide

/-- Two stars are no matter where five segments may be, and one is too many where three may be. -/
theorem trailing_stars_threeSegments :
    let request := Request.ofUrls "https://p.test/".toList "https://x.test/abc".toList
    let compiled (stars : Nat) := (Compilation.ofLines [(threeSegments true).text stars]).rules
    (Subscriptions.decide ⟨[] ++ compiled 2 :: []⟩ request).decision.isBlocked = true ∧
    (threeSegments false).Outgrows 1 ∧
    (Line.outcome ((threeSegments false).text 0)).placements ≠ [] ∧
    ∃ limit ∈ (threeSegments false).limit?,
      Line.outcome ((threeSegments false).text 1) = .dropped (.tooManySegments limit) := by
  intro request compiled
  have fits : ¬ (threeSegments true).Outgrows 2 := by
    rintro ⟨limit, given, _, many⟩
    have five : (threeSegments true).limit? = some 5 := by decide +kernel
    have two : (threeSegments true).pattern.count '*' = 2 := by decide
    cases Option.some.inj (five.symm.trans given)
    omega
  have outgrows : (threeSegments false).Outgrows 1 := ⟨3, by decide +kernel, by decide, by decide⟩
  refine ⟨?_, outgrows, ((threeSegments false).trailing_stars 1).2 outgrows⟩
  rw [((threeSegments true).trailing_stars 2).1 fits (compiled 0) (compiled 2) .compiled .compiled
    [] [] request]
  decide +kernel

/-- The star that is one too many keeps a request from being blocked. -/
theorem not_trailing_stars :
    ¬ ∀ (rule : OptionedRule) (stars : Nat) (before after : List RuleSet) (request : Request),
      (Subscriptions.decide
        ⟨before ++ (Compilation.ofLines [rule.text stars]).rules :: after⟩ request).decision.isBlocked =
      (Subscriptions.decide
        ⟨before ++ (Compilation.ofLines [rule.text 0]).rules :: after⟩ request).decision.isBlocked := by
  intro same
  have verdicts := same (threeSegments false) 1 [] []
    (.ofUrls "https://p.test/".toList "https://x.test/abc".toList)
  revert verdicts
  decide +kernel

end OptionedRule

end FilterList
