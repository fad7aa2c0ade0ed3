import FilterList.Proofs.PlacedEntries

/-! What becomes of a rule as a whole. A rule that is kept places at least one entry. One that is
given up after its domains were gone through, because none of them can be used, has nothing but
negated domains, and every other rejection comes before that. -/

namespace FilterList

namespace Rule

/-- What comes of a rule with this list of domains: some entry, or a rejection. -/
structure Settles (domains : Option Text) (outcome : Except Rejection (List Placement)) : Prop where
  filled : outcome ≠ .ok []
  negated : outcome = .error .noUsableDomain →
    ∃ list, domains = some list ∧ ∀ item ∈ domainItems list, isNegated item = true

section Outcomes
variable {domains : Option Text}

theorem Settles.error {reason : Rejection} (other : reason ≠ .noUsableDomain) :
    Settles domains (.error reason) where
  filled := nofun
  negated same := absurd (Except.error.inj same) other

theorem Settles.single {placement : Placement} : Settles domains (.ok [placement]) where
  filled := nofun
  negated := nofun

theorem Settles.bind {α : Type} {part : Except Rejection α}
    {next : α → Except Rejection (List Placement)} (other : part ≠ .error .noUsableDomain)
    (each : ∀ value, Settles domains (next value)) : Settles domains (part >>= next) := by
  cases part with
  | error reason => exact .error fun same => other (congrArg Except.error same)
  | ok value => exact each value

theorem Settles.orNoUsableDomain {list : Text} {placements : List Placement}
    (negated : placements = [] → ∀ item ∈ domainItems list, isNegated item = true) :
    Settles (some list) (orNoUsableDomain placements) := by
  unfold Rule.orNoUsableDomain
  split
  next empty => exact ⟨nofun, fun _ => ⟨list, rfl, negated (List.isEmpty_iff.mp empty)⟩⟩
  next filled => exact ⟨fun same => filled (List.isEmpty_iff.mpr (Except.ok.inj same)), nofun⟩

end Outcomes

theorem segmentsOf_ne_noUsableDomain (pattern : Text) (limit : Nat) :
    segmentsOf pattern limit ≠ .error .noUsableDomain := by
  unfold segmentsOf
  split
  · exact nofun
  · split <;> exact nofun

theorem regexOf_ne_noUsableDomain (pattern : Text) : regexOf pattern ≠ .error .noUsableDomain := by
  unfold regexOf
  dsimp only
  split <;> exact nofun

theorem refuseBareScheme_ne_noUsableDomain (pattern : Text) :
    refuseBareScheme pattern ≠ .error .noUsableDomain := by
  unfold refuseBareScheme
  split <;> exact nofun

section Placing
variable (table : Table) (list pattern : Text) (limit : Nat) (domains : Option Text)

theorem placePattern_settles : Settles domains (placePattern table pattern limit) :=
  .bind (segmentsOf_ne_noUsableDomain pattern limit) fun _ => .single

theorem placeRegex_settles : Settles domains (placeRegex table pattern) :=
  .bind (regexOf_ne_noUsableDomain pattern) fun _ => .single

theorem placeForDomains_settles (body : Body) :
    Settles (some list) (placeForDomains table list body) := by
  apply Settles.orNoUsableDomain
  intro none item listed
  have dropped := List.filter_eq_nil_iff.mp (List.map_eq_nil_iff.mp none) item listed
  simpa using dropped

theorem segmentsForDomains_settles :
    Settles (some list)
      (do placeForDomains table list (.segments (← segmentsOf pattern limit))) :=
  .bind (segmentsOf_ne_noUsableDomain pattern limit) fun _ => placeForDomains_settles ..

theorem regexForDomains_settles :
    Settles (some list) (do placeForDomains table list (.regex (← regexOf pattern))) :=
  .bind (regexOf_ne_noUsableDomain pattern) fun _ => placeForDomains_settles ..

theorem placeStartForDomains_settles :
    Settles (some list) (placeStartForDomains table list pattern) :=
  .bind (refuseBareScheme_ne_noUsableDomain pattern) fun _ => segmentsForDomains_settles ..

end Placing

section Exceptions
variable (pattern : Text)

theorem thirdPartyException_settles (domains : Option Text) :
    Settles domains (thirdPartyException pattern domains) := by
  unfold thirdPartyException
  split
  · exact placePattern_settles ..
  · exact segmentsForDomains_settles ..

theorem domainException_settles (list : Text) :
    Settles (some list) (domainException pattern list) := by
  unfold domainException
  split
  · exact placeStartForDomains_settles ..
  · exact segmentsForDomains_settles ..
  · split
    · exact .error nofun
    · exact segmentsForDomains_settles ..

end Exceptions

section Blocks
variable (pattern list : Text)

/-- Every domain of the list gives an entry, but a tilde without a name. -/
theorem mixedThirdParty_settles : Settles (some list) (mixedThirdParty pattern list) := by
  apply Settles.bind (segmentsOf_ne_noUsableDomain pattern maxSegments)
  intro segments
  apply Settles.orNoUsableDomain
  intro none item listed
  have dropped := List.filterMap_eq_nil_iff.mp (List.append_eq_nil_iff.mp none).1 item listed
  by_contra positive
  rw [if_neg positive] at dropped
  cases dropped

theorem thirdPartyBlock_settles (domains : Option Text) :
    Settles domains (thirdPartyBlock pattern domains) := by
  unfold thirdPartyBlock
  split
  · exact placePattern_settles ..
  · exact placeStartForDomains_settles ..
  · split
    · exact placeRegex_settles ..
    · exact placePattern_settles ..
  · split
    · exact regexForDomains_settles ..
    · exact mixedThirdParty_settles ..

theorem isNegated_of_dropWhile_eq_nil {item : Text} (filled : item ≠ [])
    (tildes : item.dropWhile (· == '~') = []) : isNegated item = true := by
  obtain ⟨c, rest, rfl⟩ := List.exists_cons_of_ne_nil filled
  by_contra positive
  have other : (c == '~') = false := by simpa [isNegated] using positive
  rw [List.dropWhile_cons_of_neg (by simpa using other)] at tildes
  exact filled tildes

theorem domainBlock_settles : Settles (some list) (domainBlock pattern list) := by
  unfold domainBlock
  split
  · apply Settles.bind (segmentsOf_ne_noUsableDomain _ _)
    intro segments
    apply Settles.orNoUsableDomain
    intro none item listed
    have dropped := List.filter_eq_nil_iff.mp (List.map_eq_nil_iff.mp none) _
      (List.mem_map_of_mem listed)
    exact isNegated_of_dropWhile_eq_nil (mem_domainItems listed).2.2 (by simpa using dropped)
  · split
    · exact .error nofun
    · split
      · exact placeStartForDomains_settles ..
      · exact segmentsForDomains_settles ..
      · split
        · exact regexForDomains_settles ..
        · exact segmentsForDomains_settles ..

theorem plainBlock_settles (line : Text) (finalLimit : Nat) (domains : Option Text) :
    Settles domains (plainBlock line pattern finalLimit) := by
  unfold plainBlock
  split
  · exact placePattern_settles ..
  · split
    · exact .error nofun
    · exact placePattern_settles ..
  · exact placePattern_settles ..

theorem unlimitedBlock_settles (line rule : Text) (options domains : Option Text) :
    Settles domains (unlimitedBlock line rule pattern options) := by
  unfold unlimitedBlock
  split
  · exact placePattern_settles ..
  · split
    · exact placeRegex_settles ..
    · split
      · exact plainBlock_settles ..
      · exact plainBlock_settles ..

end Blocks

theorem exception_settles (entry : Text) :
    Settles (optionsRead true (entry.dropLead "||".toList)).domains (exception entry) := by
  dsimp only [exception, optionsRead, Options.ofRule]
  split
  · split
    · exact placePattern_settles ..
    · exact placePattern_settles ..
  next pattern options cut =>
    rw [cut]
    dsimp only [Option.map_some, Option.getD_some]
    split
    · exact .error nofun
    · split
      · exact thirdPartyException_settles ..
      · cases (Options.ofText options).domains with
        | none => exact .error nofun
        | some list => exact domainException_settles ..

theorem blocking_settles (line : Text) :
    Settles (optionsRead false (line.dropLead "||".toList)).domains (blocking line) := by
  dsimp only [blocking, optionsRead]
  cases ['|'].isSuffixOf? (line.dropLead "||".toList) with
  | some pinned => exact placePattern_settles ..
  | none =>
    dsimp only [Options.ofRule]
    split
    · exact .error nofun
    · split
      · exact thirdPartyBlock_settles ..
      · cases (((splitOptions (line.dropLead "||".toList)).2.map Options.ofText).getD {}).domains with
        | some list => exact domainBlock_settles ..
        | none => exact unlimitedBlock_settles ..

end Rule

namespace Line

theorem settles_of_outcome {line : Text} {result : Except Rule.Rejection (List Placement)}
    (came : outcome line = .ofRule result) :
    ∃ rule, rule? line = some rule ∧
      Rule.Settles (Rule.optionsRead (isMarked line) rule).domains result := by
  obtain ⟨entry, marked, _, written, rfl⟩ | ⟨unmarked, written, rfl⟩ := rule_of_outcome came
  · exact ⟨_, written, marked ▸ Rule.exception_settles entry⟩
  · exact ⟨_, written, unmarked ▸ Rule.blocking_settles (content line)⟩

theorem placements_ne_nil {line : Text} {placements : List Placement}
    (accepted : outcome line = .accepted placements) : placements ≠ [] := by
  have came : outcome line = .ofRule (.ok placements) := accepted
  obtain ⟨_, _, settles⟩ := settles_of_outcome came
  exact fun none => settles.filled (congrArg Except.ok none)

/-- A line whose domains have all been refused names none without a tilde. -/
theorem negated_of_noUsableDomain {line : Text} (refused : outcome line = .dropped .noUsableDomain) :
    ∃ rule list, rule? line = some rule ∧
      (Rule.optionsRead (isMarked line) rule).domains = some list ∧
      ∀ item ∈ Rule.domainItems list, Rule.isNegated item = true := by
  have came : outcome line = .ofRule (.error .noUsableDomain) := refused
  obtain ⟨rule, written, settles⟩ := settles_of_outcome came
  obtain ⟨list, given, negated⟩ := settles.negated rfl
  exact ⟨rule, list, written, given, negated⟩

end Line

end FilterList
