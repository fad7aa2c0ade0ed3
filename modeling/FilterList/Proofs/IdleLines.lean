import FilterList.Proofs.CompilerRun
import FilterList.Proofs.RuleOutcomes

/-! Lines that leave no trace in the rules: blank ones, cosmetic ones, and rules that are dropped, for
whatever reason and however much of them was read by then. A list without them is the same list. -/

namespace FilterList

def Line.isIdle (line : Text) : Bool :=
  let tally := (Compilation.ofLines [line]).tally
  tally.blank + tally.cosmetic + tally.dropped = 1

inductive Thinned : List Text → List Text → Prop where
  | none : Thinned [] []
  | keep (line : Text) {lines kept : List Text} (thinned : Thinned lines kept) :
      Thinned (line :: lines) (line :: kept)
  | leaveOut {line : Text} (idle : Line.isIdle line = true) {lines kept : List Text}
      (thinned : Thinned lines kept) : Thinned (line :: lines) kept

namespace Compiler

/-- Two runs have come to the same rules and have counted the same for them. They may differ in the
idle lines that they met. -/
structure Agrees (left right : Compiler) : Prop where
  header : left.header = right.header
  placed : left.placed = right.placed
  comments : left.tally.comments = right.tally.comments
  accepted : left.tally.accepted = right.tally.accepted
  entries : left.tally.entries = right.tally.entries

theorem Agrees.refl (compiler : Compiler) : compiler.Agrees compiler := ⟨rfl, rfl, rfl, rfl, rfl⟩

theorem feed_dropped (compiler : Compiler) {line : Text} {reason : Rule.Rejection}
    (dropped : Line.outcome line = .dropped reason) :
    compiler.feed line =
      { compiler with
        tally := compiler.tally.count (.dropped reason)
        records := .dropped (Text.trim line) reason :: compiler.records } := by
  rw [feed_eq, dropped]
  rfl

variable {left right : Compiler}

theorem Agrees.feed (agrees : left.Agrees right) (line : Text) :
    (left.feed line).Agrees (right.feed line) := by
  obtain ⟨header, placed, comments, accepted, entries⟩ := agrees
  rw [feed_eq, feed_eq, header, placed]
  cases Line.outcome line with
  | blank | cosmetic | dropped _ => exact ⟨rfl, rfl, comments, accepted, entries⟩
  | comment _ => exact ⟨rfl, rfl, congrArg (· + 1) comments, accepted, entries⟩
  | accepted placements =>
    exact ⟨rfl, rfl, comments, congrArg (· + 1) accepted,
      congrArg (· + placements.length) entries⟩

theorem Agrees.feed_idle (agrees : left.Agrees right) {line : Text}
    (idle : Line.isIdle line = true) : (left.feed line).Agrees right := by
  obtain ⟨header, placed, comments, accepted, entries⟩ := agrees
  rw [Line.isIdle, Compilation.tally_ofLine] at idle
  rw [feed_eq]
  cases shape : Line.outcome line with
  | blank | cosmetic | dropped _ => exact ⟨header, placed, comments, accepted, entries⟩
  | comment _ | accepted _ => simp [shape, Tally.count] at idle

theorem Agrees.run {lines kept : List Text} (agrees : left.Agrees right)
    (thinned : Thinned lines kept) :
    (lines.foldl Compiler.feed left).Agrees (kept.foldl Compiler.feed right) := by
  induction thinned generalizing left right with
  | none => exact agrees
  | keep line _ ih => exact ih (agrees.feed line)
  | leaveOut idle _ ih => exact ih (agrees.feed_idle idle)

end Compiler

namespace Compilation

/-- Idle lines may be left out at any places: the rules stay the same, tables and header, and so does
what is counted of the lines that made them. For however far a rule was gone through by the time it
is refused, the compiler is then as it was before, and a dropped line adds but its count and record.
Where a rule is refused only after its domains were gone through, none of these could be used. -/
theorem rules_thinned :
    (∀ lines kept : List Text, Thinned lines kept →
      (ofLines kept).rules = (ofLines lines).rules ∧
      (ofLines kept).tally.accepted = (ofLines lines).tally.accepted ∧
      (ofLines kept).tally.entries = (ofLines lines).tally.entries) ∧
    (∀ (compiler after : Compiler) (rule : Text) (reason : Rule.Rejection),
      (Emission.exception rule).run.run compiler = (.error reason, after) ∨
        (Emission.blocking rule).run.run compiler = (.error reason, after) →
      after = compiler) ∧
    (∀ (compiler : Compiler) (line : Text) (reason : Rule.Rejection),
      Line.outcome line = .dropped reason →
      compiler.feed line =
        { compiler with
          tally := compiler.tally.count (.dropped reason)
          records := .dropped (Text.trim line) reason :: compiler.records }) ∧
    ∀ line, Line.outcome line = .dropped .noUsableDomain →
      ∃ rule list, Line.rule? line = some rule ∧
        (Rule.optionsRead (Line.isMarked line) rule).domains = some list ∧
        ∀ item ∈ Rule.domainItems list, Rule.isNegated item = true := by
  refine ⟨?_, ?_, fun compiler _ _ => compiler.feed_dropped, fun _ => Line.negated_of_noUsableDomain⟩
  · intro lines kept thinned
    have agrees : (Compiler.read lines).Agrees (Compiler.read kept) :=
      (Compiler.Agrees.refl {}).run thinned
    refine ⟨?_, agrees.accepted.symm, agrees.entries.symm⟩
    change RuleSet.mk _ (List.reverse _) = RuleSet.mk _ (List.reverse _)
    rw [agrees.header, agrees.placed]
  · rintro compiler after rule reason (refused | refused)
    · exact (Emission.emits_exception rule).after_error refused
    · exact (Emission.emits_blocking rule).after_error refused

theorem rules_thinned_around_rule :
    let refused := " x$third-party,domain=~|~ ".toList
    let title := "! Title: T".toList
    let rule := "/ads$third-party,domain=a|~b".toList
    let lines := ["\t".toList, "! Title: A ##".toList, title, refused, rule, refused]
    let kept := [title, rule, refused]
    Thinned lines kept ∧
    (ofLines kept).rules = (ofLines lines).rules ∧ (ofLines lines).rules.size = 3 ∧
    (∃ after, (Emission.blocking (Line.content refused)).run.run (Compiler.read lines) =
      (.error .noUsableDomain, after) ∧ after = Compiler.read lines) ∧
    Line.outcome refused = .dropped .noUsableDomain ∧
    ((Compiler.read lines).feed refused).records =
      .dropped (Text.trim refused) .noUsableDomain :: (Compiler.read lines).records ∧
    ∃ list, (Rule.optionsRead false "x$third-party,domain=~|~".toList).domains = some list ∧
      ∀ item ∈ Rule.domainItems list, Rule.isNegated item = true := by
  intro refused title rule lines kept
  have thinned : Thinned lines kept :=
    .leaveOut (by decide +kernel) (.leaveOut (by decide +kernel) (.keep title
      (.leaveOut (by decide +kernel) (.keep rule (.keep refused .none)))))
  have dropped : Line.outcome refused = .dropped .noUsableDomain := by decide
  have unplaced : Rule.blocking (Line.content refused) = .error .noUsableDomain := by decide
  obtain ⟨same, whole, single, negated⟩ := rules_thinned
  refine ⟨thinned, (same lines kept thinned).1, by decide +kernel, ?_, dropped, ?_, ?_⟩
  · have ran := (Emission.emits_blocking (Line.content refused)).run (Compiler.read lines)
    rw [unplaced] at ran
    exact ⟨_, ran, whole _ _ _ _ (.inr ran)⟩
  · rw [single _ _ _ dropped]
  · obtain ⟨written, list, read, given, each⟩ := negated refused dropped
    have shape : Line.rule? refused = some "x$third-party,domain=~|~".toList := by decide
    cases shape.symm.trans read
    exact ⟨list, given, each⟩

end Compilation

end FilterList
