import FilterList.Proofs.Emissions

/-! Reading a list is a run over its lines that carries headers, placements, counts and records
along. What a line adds to them is the same after any lines, so a run over two lists one after the
other comes to both runs put together. -/

namespace FilterList

def Tally.count (tally : Tally) (outcome : Line.Outcome) : Tally :=
  let tally := { tally with lines := tally.lines + 1 }
  match outcome with
  | .blank => { tally with blank := tally.blank + 1 }
  | .comment _ => { tally with comments := tally.comments + 1 }
  | .cosmetic => { tally with cosmetic := tally.cosmetic + 1 }
  | .dropped _ => { tally with dropped := tally.dropped + 1 }
  | .accepted placements =>
    { tally with
      accepted := tally.accepted + 1
      entries := tally.entries + placements.length }

instance : Add Tally where
  add first second :=
    { lines := first.lines + second.lines
      blank := first.blank + second.blank
      comments := first.comments + second.comments
      cosmetic := first.cosmetic + second.cosmetic
      dropped := first.dropped + second.dropped
      accepted := first.accepted + second.accepted
      entries := first.entries + second.entries }

theorem Tally.add_empty (tally : Tally) : tally + {} = tally := rfl

theorem Tally.count_add (first second : Tally) (outcome : Line.Outcome) :
    (first + second).count outcome = first + second.count outcome := by
  cases outcome with
  -- Only entries are counted by more than one at a time.
  | accepted placements => exact congrArg (Tally.mk _ _ _ _ _ _) (Nat.add_assoc ..)
  | blank | comment _ | cosmetic | dropped _ => rfl

namespace Header

def or (first second : Header) : Header :=
  ⟨first.title.or second.title, first.version.or second.version⟩

theorem or_empty (header : Header) : header.or {} = header := by
  simp [Header.or]

theorem capture_or (first second : Header) (value : Line.HeaderValue) :
    (first.or second).capture value = first.or (second.capture value) := by
  cases value <;> simp [Header.or, capture]

end Header

namespace Line

def Outcome.value? : Outcome → Option HeaderValue
  | comment value => value
  | _ => none

/-- What is recorded of a line: that it is dropped, or its entries that can never match. -/
def records (line : Text) : Outcome → List LogRecord
  | .dropped reason => [.dropped (Text.trim line) reason]
  | outcome => outcome.placements.flatMap (·.entry.records)

end Line

namespace Compiler

/-- How the content of a line is classified, and what it leaves behind. -/
def met (compiler : Compiler) : Line.Outcome → Line.Kind × Compiler
  | .blank => (.blank, compiler)
  | .cosmetic => (.cosmetic, compiler)
  | .comment value =>
    (.comment, { compiler with header := value.elim compiler.header compiler.header.capture })
  | .dropped reason => (.rule (.error reason), compiler)
  | .accepted placements => (.rule (.ok placements.length), compiler.after placements)

theorem run_rule {action : Emission Nat} {plan : Except Rule.Rejection (List Placement)}
    (emits : action.Emits plan) (compiler : Compiler) :
    (do return Line.Kind.rule (← action.run) : StateM Compiler Line.Kind).run compiler =
      compiler.met (.ofRule plan) := by
  have ran := emits.run compiler
  cases plan with
  | ok placements => exact congrArg (fun state => (Line.Kind.rule state.1, state.2)) ran
  | error reason => exact congrArg (fun state => (Line.Kind.rule state.1, state.2)) ran

theorem run_classify (content : Text) (compiler : Compiler) :
    (classify content).run compiler = compiler.met (Line.outcomeOf content) := by
  unfold classify Line.outcomeOf
  split
  next => rfl
  next =>
    split
    next => rfl
    next =>
      split
      next => cases Line.headerValue? content <;> rfl
      next =>
        cases "@@".toList.isPrefixOf? content with
        | some rule => exact run_rule (Emission.emits_exception rule) compiler
        | none => exact run_rule (Emission.emits_blocking content) compiler

/-- All that a line adds, whatever kind of line it is. -/
theorem feed_eq (compiler : Compiler) (line : Text) :
    compiler.feed line =
      { header := (Line.outcome line).value?.elim compiler.header compiler.header.capture
        placed := (Line.outcome line).placements.reverse ++ compiler.placed
        tally := compiler.tally.count (Line.outcome line)
        records := (Line.records line (Line.outcome line)).reverse ++ compiler.records } := by
  unfold feed Line.outcome
  dsimp only
  rw [run_classify]
  cases Line.outcomeOf (Line.content line) with
  | blank | cosmetic | dropped _ | comment _ | accepted _ => rfl

def followedBy (first second : Compiler) : Compiler where
  header := first.header.or second.header
  placed := second.placed ++ first.placed
  tally := first.tally + second.tally
  records := second.records ++ first.records

theorem followedBy_empty (compiler : Compiler) : compiler.followedBy {} = compiler := by
  simp [followedBy, Header.or_empty, Tally.add_empty]

/-- A line adds the same whatever was read before it. Only a title or version that is there already
keeps a later one out. -/
theorem feed_followedBy (first second : Compiler) (line : Text) :
    (first.followedBy second).feed line = first.followedBy (second.feed line) := by
  have captured (value : Option Line.HeaderValue) :
      value.elim (first.header.or second.header) (first.header.or second.header).capture =
        first.header.or (value.elim second.header second.header.capture) := by
    cases value with
    | none => rfl
    | some value => exact Header.capture_or ..
  rw [feed_eq, feed_eq]
  simp [followedBy, captured, Tally.count_add]

theorem run_followedBy (first second : Compiler) (lines : List Text) :
    lines.foldl feed (first.followedBy second) = first.followedBy (lines.foldl feed second) := by
  induction lines generalizing second with
  | nil => rfl
  | cons line rest ih =>
    simp only [List.foldl_cons]
    rw [feed_followedBy]
    exact ih _

theorem read_append (before after : List Text) :
    read (before ++ after) = (read before).followedBy (read after) := by
  unfold read
  rw [List.foldl_append]
  simpa only [followedBy_empty] using run_followedBy (before.foldl feed {}) {} after

end Compiler

namespace Compilation

theorem rules_ofLine (line : Text) :
    (ofLines [line]).rules =
      ⟨(Line.outcome line).value?.elim {} (Header.capture {}), (Line.outcome line).placements⟩ := by
  simp [ofLines, Compiler.read, Compiler.finish, Compiler.feed_eq]

theorem rules_ofRule {line : Text} {result : Except Rule.Rejection (List Placement)}
    (came : Line.outcome line = .ofRule result) :
    (ofLines [line]).rules = ⟨{}, (Line.Outcome.ofRule result).placements⟩ := by
  rw [rules_ofLine, came]
  cases result <;> rfl

theorem tally_ofLine (line : Text) :
    (ofLines [line]).tally = Tally.count {} (Line.outcome line) := by
  simp [ofLines, Compiler.read, Compiler.finish, Compiler.feed_eq]

theorem placements_append (before after : List Text) :
    (ofLines (before ++ after)).rules.placements =
      (ofLines before).rules.placements ++ (ofLines after).rules.placements := by
  simp [ofLines, Compiler.read_append, Compiler.finish, Compiler.followedBy]

theorem placements_ofLines (lines : List Text) :
    (ofLines lines).rules.placements = lines.flatMap fun line => (Line.outcome line).placements := by
  induction lines with
  | nil => rfl
  | cons line rest ih =>
    have split := placements_append [line] rest
    rw [rules_ofLine, ih] at split
    simpa using split

theorem rules_congr {lines others : List Text}
    (same : lines.map Line.outcome = others.map Line.outcome) :
    (ofLines lines).rules = (ofLines others).rules := by
  have header (lines : List Text) : (ofLines lines).rules.header =
      (lines.map Line.outcome).foldl
        (fun header outcome => outcome.value?.elim header header.capture) {} := by
    rw [List.foldl_map]
    exact (List.foldl_hom Compiler.header fun compiler line => by rw [Compiler.feed_eq]).symm
  have placements (lines : List Text) : (ofLines lines).rules.placements =
      (lines.map Line.outcome).flatMap Line.Outcome.placements := by
    rw [placements_ofLines, List.flatMap_map]
  have joined (lines : List Text) : (ofLines lines).rules =
      ⟨(ofLines lines).rules.header, (ofLines lines).rules.placements⟩ := rfl
  rw [joined lines, joined others, header, header, placements, placements, same]

theorem tally_congr {lines others : List Text}
    (same : lines.map Line.outcome = others.map Line.outcome) :
    (ofLines lines).tally = (ofLines others).tally := by
  have counted (lines : List Text) :
      (ofLines lines).tally = (lines.map Line.outcome).foldl Tally.count {} := by
    rw [List.foldl_map]
    exact (List.foldl_hom Compiler.tally fun compiler line => by rw [Compiler.feed_eq]).symm
  rw [counted, counted, same]

/-- Lines read one after the other are compiled as if each were read alone: tables are put one
after the other, a title or version of the first list stays, and counts are added up. What a line
comes to is therefore its own matter in any list. -/
theorem ofLines_append (before after : List Text) :
    (∀ table, (ofLines (before ++ after)).rules.table table =
      (ofLines before).rules.table table ++ (ofLines after).rules.table table) ∧
    (ofLines (before ++ after)).rules.header.title =
      (ofLines before).rules.header.title.or (ofLines after).rules.header.title ∧
    (ofLines (before ++ after)).rules.header.version =
      (ofLines before).rules.header.version.or (ofLines after).rules.header.version ∧
    (ofLines (before ++ after)).tally = (ofLines before).tally + (ofLines after).tally ∧
    ∀ line, (ofLines [line]).tally = Tally.count {} (Line.outcome line) ∧
      (ofLines [line]).rules =
        ⟨(Line.outcome line).value?.elim {} (Header.capture {}), (Line.outcome line).placements⟩ := by
  have read := Compiler.read_append before after
  refine ⟨?_, ?_, ?_, ?_, fun line => ⟨tally_ofLine line, rules_ofLine line⟩⟩
  · intro table
    unfold RuleSet.table
    rw [placements_append, List.filterMap_append]
  · exact congrArg (fun compiler => compiler.header.title) read
  · exact congrArg (fun compiler => compiler.header.version) read
  · exact congrArg (fun compiler => compiler.tally) read

end Compilation

end FilterList
