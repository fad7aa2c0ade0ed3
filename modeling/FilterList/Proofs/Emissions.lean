import FilterList.Compilation
import Mathlib.Data.List.Basic

/-! What the actions of a rule leave behind. On every compiler an action places the entries that the
rule stands for, in their order, and returns how many there are; or it refuses the rule with nothing
placed and nothing recorded, although it places entries before it knows that it need not refuse. -/

namespace FilterList

namespace Compiler

/-- The compiler once the placements stand. Each that can never match has been recorded. -/
def after (compiler : Compiler) (placements : List Placement) : Compiler :=
  { compiler with
    placed := placements.reverse ++ compiler.placed
    records := (placements.flatMap (·.entry.records)).reverse ++ compiler.records }

theorem after_append (compiler : Compiler) (first rest : List Placement) :
    compiler.after (first ++ rest) = (compiler.after first).after rest := by
  simp [after]

end Compiler

namespace Emission
open Rule

/-- The action does what the plan says on every compiler, and counts what it places. -/
structure Emits (action : Emission Nat) (plan : Except Rejection (List Placement)) : Prop where
  run (compiler : Compiler) : action.run.run compiler = match plan with
    | .ok placements => (.ok placements.length, compiler.after placements)
    | .error reason => (.error reason, compiler)

section Results
variable {action : Emission Nat} {plan : Except Rejection (List Placement)}
  {compiler after : Compiler}

theorem Emits.after_error (emits : Emits action plan) {reason : Rejection}
    (ran : action.run.run compiler = (.error reason, after)) : after = compiler := by
  rw [emits.run] at ran
  cases plan with
  | ok placements => cases ran
  | error reason => exact (Prod.mk.inj ran).2.symm

theorem Emits.after_ok (emits : Emits action plan) {count : Nat}
    (ran : action.run.run compiler = (.ok count, after)) :
    ∃ placements, plan = .ok placements ∧ count = placements.length ∧
      after = compiler.after placements := by
  rw [emits.run] at ran
  cases plan with
  | ok placements =>
    obtain ⟨counted, reached⟩ := Prod.mk.inj ran
    exact ⟨placements, rfl, (Except.ok.inj counted).symm, reached.symm⟩
  | error reason => cases ran

theorem Emits.run_of_length (emits : Emits action plan) {count : Nat}
    (counted : plan.map List.length = .ok count) (compiler : Compiler) :
    ∃ after, action.run.run compiler = (.ok count, after) := by
  rw [emits.run]
  cases plan with
  | ok placements => exact ⟨_, congrArg (Prod.mk · _) counted⟩
  | error reason => cases counted

end Results

section Rules
variable {α β : Type} {compiler next : Compiler}

theorem run_bind {first : Emission α} {rest : α → Emission β} {value : α}
    (ran : first.run.run compiler = (.ok value, next)) :
    (first >>= rest).run.run compiler = (rest value).run.run next := by
  change (do
    let result ← first.run.run compiler
    (ExceptT.bindCont rest result.1).run result.2 : Id _) = _
  rw [ran]
  rfl

theorem emits_throw (reason : Rejection) : Emits (throw reason) (.error reason) :=
  ⟨fun _ => rfl⟩

theorem emits_ofExcept {step : Except Rejection α} {rest : α → Emission Nat}
    {plan : α → Except Rejection (List Placement)} (emits : ∀ value, Emits (rest value) (plan value)) :
    Emits (MonadExcept.ofExcept step >>= rest) (step >>= plan) := by
  cases step with
  | ok value => exact emits value
  | error reason => exact emits_throw reason

/-- Segments can always match, so nothing is recorded. -/
theorem run_emit_segments (table : Table) (domain : Option Text) (segments : Segments)
    (compiler : Compiler) :
    (emit table ⟨domain, .segments segments⟩).run.run compiler =
      (.ok 1, compiler.after [⟨table, domain, .segments segments⟩]) := rfl

theorem run_emitSource (table : Table) (domain : Option Text) (source : Text) (compiler : Compiler) :
    (emitSource table domain source).run.run compiler =
      (.ok 1, compiler.after [⟨table, domain, .regex (.ofSource source)⟩]) := by
  unfold emitSource readPattern Compiler.after
  cases valid : (UrlPattern.ofSource source).isValid with
  | true =>
    simp [Entry.records, Entry.brokenSource?, valid]
    rfl
  | false =>
    simp [Entry.records, Entry.brokenSource?, valid]
    rfl

/-- A loop whose turns each place some entries places those of all turns. Its state follows from the
items that it has gone through. -/
theorem run_forIn {body : α → β → Emission (ForInStep β)} (state : List α → β)
    (placed : α → List Placement)
    (turn : ∀ done item compiler, (body item (state done)).run.run compiler =
      (.ok (.yield (state (done ++ [item]))), compiler.after (placed item)))
    (done items : List α) (compiler : Compiler) :
    (forIn items (state done) body).run.run compiler =
      (.ok (state (done ++ items)), compiler.after (items.flatMap placed)) := by
  induction items generalizing done compiler with
  | nil => rw [List.append_nil]; rfl
  | cons item items ih =>
    rw [List.forIn_cons, run_bind (turn done item compiler)]
    dsimp only
    rw [ih, List.append_assoc, List.flatMap_cons, Compiler.after_append]
    rfl

/-- Nothing has been placed just where the count is zero. -/
theorem run_orNoUsableDomain (placements : List Placement) (compiler : Compiler) :
    (orNoUsableDomain placements.length).run.run (compiler.after placements) =
      match Rule.orNoUsableDomain placements with
      | .ok placements => (.ok placements.length, compiler.after placements)
      | .error reason => (.error reason, compiler) := by
  cases placements with
  | nil => rfl
  | cons placement rest => rfl

theorem emits_forIn {body : α → Nat → Emission (ForInStep Nat)} (placed : α → List Placement)
    (turn : ∀ count item compiler, (body item count).run.run compiler =
      (.ok (.yield (count + (placed item).length)), compiler.after (placed item)))
    (items : List α) :
    Emits (forIn items 0 body >>= orNoUsableDomain)
      (Rule.orNoUsableDomain (items.flatMap placed)) := by
  refine ⟨fun compiler => ?_⟩
  have turns (done : List α) (item : α) (compiler : Compiler) :
      (body item (done.flatMap placed).length).run.run compiler =
        (.ok (.yield ((done ++ [item]).flatMap placed).length), compiler.after (placed item)) := by
    simpa using turn _ item compiler
  have looped := run_forIn (fun done => (done.flatMap placed).length) placed turns [] items compiler
  exact (run_bind looped).trans (run_orNoUsableDomain _ compiler)

theorem map_filter_eq_flatMap (kept : α → Bool) (f : α → β) (items : List α) :
    (items.filter kept).map f = items.flatMap fun item => if kept item then [f item] else [] := by
  induction items with
  | nil => rfl
  | cons item items ih =>
    rw [List.filter_cons, List.flatMap_cons, ← ih]
    split <;> rfl

end Rules

variable (table : Table) (pattern domains : Text)

theorem emits_emitPattern (limit : Nat) :
    Emits (emitPattern table pattern limit) (placePattern table pattern limit) :=
  emits_ofExcept fun segments => ⟨run_emit_segments table none segments⟩

theorem emits_emitRegex : Emits (emitRegex table pattern) (placeRegex table pattern) := by
  unfold emitRegex placeRegex regexOf
  dsimp only
  split
  next => exact emits_throw _
  next => exact ⟨run_emitSource table none _⟩

theorem emits_emitForDomains (segments : Segments) :
    Emits (emitForDomains table domains segments)
      (placeForDomains table domains (.segments segments)) := by
  unfold emitForDomains placeForDomains
  rw [map_filter_eq_flatMap]
  refine emits_forIn _ (fun count domain compiler => ?_) _
  cases isNegated domain with
  | true => rfl
  | false => exact run_bind (run_emit_segments table (some domain) segments compiler)

theorem emits_emitRegexForDomains :
    Emits (emitRegexForDomains table domains (regexSource pattern))
      (regexOf pattern >>= fun regex => placeForDomains table domains (.regex regex)) := by
  unfold emitRegexForDomains placeForDomains regexOf
  dsimp only
  split
  next => exact emits_throw _
  next =>
    simp only [map_filter_eq_flatMap]
    refine emits_forIn _ (fun count domain compiler => ?_) _
    cases isNegated domain with
    | true => rfl
    | false => exact run_bind (run_emitSource table (some domain) _ compiler)

theorem emits_segmentsForDomains (limit : Nat) :
    Emits (do emitForDomains table domains (← MonadExcept.ofExcept (segmentsOf pattern limit)))
      (do placeForDomains table domains (.segments (← segmentsOf pattern limit))) :=
  emits_ofExcept fun segments => emits_emitForDomains table domains segments

theorem emits_emitStartForDomains :
    Emits (emitStartForDomains table domains pattern)
      (placeStartForDomains table domains pattern) :=
  emits_ofExcept fun _ => emits_segmentsForDomains table pattern domains maxSegments

theorem emits_thirdPartyException (pattern : Text) (domains : Option Text) :
    Emits (thirdPartyException pattern domains) (Rule.thirdPartyException pattern domains) := by
  unfold thirdPartyException Rule.thirdPartyException
  cases domains with
  | none => exact emits_emitPattern ..
  | some domains =>
    cases ['|'].isPrefixOf? pattern with
    | some pattern => exact emits_segmentsForDomains ..
    | none => exact emits_segmentsForDomains ..

theorem emits_domainException (pattern domains : Text) :
    Emits (domainException pattern domains) (Rule.domainException pattern domains) := by
  unfold domainException Rule.domainException
  cases ['|'].isPrefixOf? pattern with
  | some pattern => exact emits_emitStartForDomains ..
  | none =>
    cases ['|'].isSuffixOf? pattern with
    | some pattern => exact emits_segmentsForDomains ..
    | none =>
      dsimp only
      split
      next => exact emits_throw _
      next => exact emits_segmentsForDomains ..

theorem emits_exception (rule : Text) : Emits (exception rule) (Rule.exception rule) := by
  unfold exception Rule.exception
  generalize rule.dropLead "||".toList = rule
  dsimp only
  generalize splitOptions rule = cut
  obtain ⟨pattern, none | text⟩ := cut
  · cases ['|'].isSuffixOf? rule with
    | some pattern => exact emits_emitPattern ..
    | none => exact emits_emitPattern ..
  · dsimp only
    generalize Options.ofText text = options
    split
    next => exact emits_throw _
    next =>
      split
      next => exact emits_thirdPartyException ..
      next =>
        cases options.domains with
        | none => exact emits_throw _
        | some domains => exact emits_domainException ..

/-- What one domain of a mixed list leads to. -/
def mixedPlacement? (segments : Segments) (domain : Text) : Option Placement :=
  if isNegated domain then
    (exempt? domain).map fun exempt =>
      ⟨.exceptionThirdPartyDomain, some exempt, .segments segments⟩
  else some ⟨.blockThirdPartyDomain, some domain, .segments segments⟩

theorem exempt?_eq_none {domain : Text} (plain : isNegated domain = false) :
    exempt? domain = none := by
  unfold exempt?
  split
  next => cases plain
  next => rfl

/-- What the loop over a mixed list knows once it has gone through some domains. -/
def mixedState (segments : Segments) (done : List Text) : Nat × Bool :=
  ((done.filterMap (mixedPlacement? segments)).length, done.any fun domain => (exempt? domain).isSome)

/-- After the loop, the block on all other pages. -/
theorem run_everywhere (segments : Segments) (exempts : Bool) (limited : List Placement)
    (compiler : Compiler) :
    (if exempts = true then do
        orNoUsableDomain (limited.length + (← emit .blockThirdParty ⟨none, .segments segments⟩))
      else orNoUsableDomain limited.length : Emission Nat).run.run (compiler.after limited) =
      match Rule.orNoUsableDomain (limited ++ if exempts = true then
        [⟨.blockThirdParty, none, .segments segments⟩] else []) with
      | .ok placements => (.ok placements.length, compiler.after placements)
      | .error reason => (.error reason, compiler) := by
  cases exempts with
  | true =>
    have placed := run_orNoUsableDomain
      (limited ++ [⟨.blockThirdParty, none, .segments segments⟩]) compiler
    rw [Compiler.after_append, List.length_append] at placed
    exact (run_bind (run_emit_segments .blockThirdParty none segments _)).trans placed
  | false =>
    rw [if_neg Bool.false_ne_true, if_neg Bool.false_ne_true, List.append_nil]
    exact run_orNoUsableDomain limited compiler

theorem emits_mixedThirdParty (pattern domains : Text) :
    Emits (mixedThirdParty pattern domains) (Rule.mixedThirdParty pattern domains) := by
  unfold mixedThirdParty Rule.mixedThirdParty
  refine emits_ofExcept fun segments => ⟨fun compiler => ?_⟩
  refine (run_bind (run_forIn (mixedState segments)
    (fun domain => (mixedPlacement? segments domain).toList)
    (fun done domain compiler => ?turn) [] (domainItems domains) compiler)).trans ?_
  case turn =>
    cases negated : isNegated domain with
    | false =>
      simp [mixedState, mixedPlacement?, negated, exempt?_eq_none negated]
      rfl
    | true =>
      cases exempted : exempt? domain with
      | none =>
        simp [mixedState, mixedPlacement?, negated, exempted]
        rfl
      | some exempt =>
        simp [mixedState, mixedPlacement?, negated, exempted]
        rfl
  rw [← List.filterMap_eq_flatMap_toList]
  exact run_everywhere segments _ _ compiler

theorem emits_thirdPartyBlock (pattern : Text) (domains : Option Text) :
    Emits (thirdPartyBlock pattern domains) (Rule.thirdPartyBlock pattern domains) := by
  unfold thirdPartyBlock Rule.thirdPartyBlock
  cases ['|'].isPrefixOf? pattern with
  | some pattern =>
    cases domains with
    | none => exact emits_emitPattern ..
    | some domains => exact emits_emitStartForDomains ..
  | none =>
    cases domains with
    | none =>
      dsimp only
      split
      next => exact emits_emitRegex ..
      next => exact emits_emitPattern ..
    | some domains =>
      dsimp only
      split
      next => exact emits_emitRegexForDomains ..
      next => exact emits_mixedThirdParty ..

theorem emits_exemptDomains (pattern domains : Text) :
    Emits (exemptDomains pattern domains) (do
      let body := Body.segments (← segmentsOf (dropStars pattern) 3)
      let exempt := (domainItems domains).map (·.dropWhile (· == '~'))
      Rule.orNoUsableDomain <| (exempt.filter (!·.isEmpty)).map fun domain =>
        ⟨.exceptionDomain, some domain, body⟩) := by
  unfold exemptDomains
  refine emits_ofExcept fun segments => ?_
  dsimp only
  rw [map_filter_eq_flatMap, List.flatMap_map]
  refine emits_forIn _ (fun count item compiler => ?_) _
  cases (item.dropWhile (· == '~')).isEmpty with
  | true => rfl
  | false => exact run_bind (run_emit_segments .exceptionDomain _ segments compiler)

theorem emits_domainBlock (pattern domains : Text) :
    Emits (domainBlock pattern domains) (Rule.domainBlock pattern domains) := by
  unfold domainBlock Rule.domainBlock
  split
  next => exact emits_exemptDomains ..
  next =>
    split
    next => exact emits_throw _
    next =>
      cases ['|'].isPrefixOf? pattern with
      | some pattern => exact emits_emitStartForDomains ..
      | none =>
        cases ['|'].isSuffixOf? pattern with
        | some pattern => exact emits_segmentsForDomains ..
        | none =>
          dsimp only
          split
          next => exact emits_emitRegexForDomains ..
          next => exact emits_segmentsForDomains ..

theorem emits_plainBlock (line pattern : Text) (finalLimit : Nat) :
    Emits (plainBlock line pattern finalLimit) (Rule.plainBlock line pattern finalLimit) := by
  unfold plainBlock Rule.plainBlock
  cases ['|'].isPrefixOf? pattern with
  | some pattern => exact emits_emitPattern ..
  | none =>
    cases ['|'].isSuffixOf? pattern with
    | some pattern =>
      dsimp only
      split
      next => exact emits_throw _
      next => exact emits_emitPattern ..
    | none => exact emits_emitPattern ..

theorem emits_unlimitedBlock (line rule pattern : Text) (options : Option Text) :
    Emits (unlimitedBlock line rule pattern options)
      (Rule.unlimitedBlock line rule pattern options) := by
  unfold unlimitedBlock Rule.unlimitedBlock
  split
  next => exact emits_emitPattern ..
  next =>
    split
    next => exact emits_emitRegex ..
    next =>
      cases options with
      | none => exact emits_plainBlock ..
      | some options => exact emits_plainBlock ..

theorem emits_blocking (line : Text) : Emits (blocking line) (Rule.blocking line) := by
  unfold blocking Rule.blocking
  generalize line.dropLead "||".toList = rule
  dsimp only
  cases ['|'].isSuffixOf? rule with
  | some pattern => exact emits_emitPattern ..
  | none =>
    dsimp only
    generalize ((splitOptions rule).2.map Options.ofText).getD {} = options
    split
    next => exact emits_throw _
    next =>
      split
      next => exact emits_thirdPartyBlock ..
      next =>
        cases options.domains with
        | some domains => exact emits_domainBlock ..
        | none => exact emits_unlimitedBlock ..

end Emission

end FilterList
