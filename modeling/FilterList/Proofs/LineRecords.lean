import FilterList.Proofs.BrokenPatterns

/-! The log of a compiled list, line by line. A line is told of by one record for each pattern of it
that cannot be read, or by one that it is dropped, or not at all. So the log can be counted up against
the tally and against the tables of the list. -/

namespace FilterList

namespace LogRecord

def leveled (record : LogRecord) : Level × LogRecord := (record.level, record)

def isInvalidPattern : LogRecord → Bool
  | invalidPattern _ => true
  | _ => false

end LogRecord

namespace Entry

theorem records_of_isBroken {entry : Entry} (broken : entry.IsBroken) :
    ∃ source, entry.records = [.invalidPattern source] := by
  obtain ⟨source, known⟩ := Option.isSome_iff_exists.mp (isSome_brokenSource?_iff.mpr broken)
  exact ⟨source, by rw [records, known]; rfl⟩

theorem records_of_not_isBroken {entry : Entry} (sound : ¬ entry.IsBroken) : entry.records = [] := by
  rw [← isSome_brokenSource?_iff, Option.not_isSome_iff_eq_none] at sound
  rw [records, sound]
  rfl

theorem countP_level_records (entry : Entry) : entry.records.countP (·.level = .trace) = 0 := by
  by_cases broken : entry.IsBroken
  · obtain ⟨source, known⟩ := records_of_isBroken broken
    rw [known]
    rfl
  · rw [records_of_not_isBroken broken]
    rfl

theorem countP_isInvalidPattern_records (entry : Entry) :
    entry.records.countP (·.isInvalidPattern) = if entry.IsBroken then 1 else 0 := by
  split
  next broken =>
    obtain ⟨source, known⟩ := records_of_isBroken broken
    rw [known]
    rfl
  next sound =>
    rw [records_of_not_isBroken sound]
    rfl

end Entry

namespace Emission

/-- On every compiler the action records each pattern that it reads in vain, once for each entry that it
places with it, and nothing else. It places nothing if it refuses the rule. -/
def RecordsPlaced (action : Emission Nat) : Prop :=
  ∀ compiler : Compiler, ∃ placements : List Placement,
    ((action.run.run compiler).1.isOk = true ∨ placements = []) ∧
    (action.run.run compiler).2.placed = placements.reverse ++ compiler.placed ∧
    (action.run.run compiler).2.records =
      ((placements.filterMap (·.entry.brokenSource?)).map .invalidPattern).reverse ++
        compiler.records

theorem flatMap_records (placements : List Placement) :
    placements.flatMap (·.entry.records) =
      (placements.filterMap (·.entry.brokenSource?)).map .invalidPattern := by
  induction placements with
  | nil => rfl
  | cons placement rest ih =>
    rw [List.flatMap_cons, ih, List.filterMap_cons, Entry.records]
    cases placement.entry.brokenSource? <;> rfl

theorem Emits.recordsPlaced {action : Emission Nat} {plan : Except Rule.Rejection (List Placement)}
    (emits : action.Emits plan) : action.RecordsPlaced := by
  intro compiler
  rw [emits.run]
  cases plan with
  | ok placements =>
    refine ⟨placements, .inl rfl, rfl, ?_⟩
    rw [← flatMap_records]
    rfl
  | error reason => exact ⟨[], .inr rfl, rfl, rfl⟩

end Emission

namespace Line

/-- One record for each entry of the line whose pattern cannot be read, in their order. -/
def patternRecords (line : Text) : List LogRecord :=
  ((Compilation.ofLines [line]).rules.placements.filterMap (·.entry.brokenSource?)).map
    .invalidPattern

def dropRecords (line : Text) : List LogRecord :=
  match outcome line with
  | .dropped reason => [.dropped (Text.trim line) reason]
  | _ => []

theorem patternRecords_eq (line : Text) :
    patternRecords line = (outcome line).placements.flatMap (·.entry.records) := by
  rw [patternRecords, Compilation.rules_ofLine, Emission.flatMap_records]

/-- A dropped line places nothing, so it has nothing else to be told of. -/
theorem patternRecords_eq_nil_or (line : Text) :
    patternRecords line = [] ∨ dropRecords line = [] := by
  rw [patternRecords_eq, dropRecords]
  cases outcome line with
  | dropped reason => exact .inl rfl
  | blank | comment _ | cosmetic | accepted _ => exact .inr rfl

theorem leveled_patternRecords (line : Text) :
    (patternRecords line).map LogRecord.leveled = (patternRecords line).map (.debug, ·) := by
  rw [patternRecords, List.map_map, List.map_map]
  rfl

theorem leveled_dropRecords (line : Text) :
    (dropRecords line).map LogRecord.leveled = (dropRecords line).map (.trace, ·) := by
  unfold dropRecords
  cases outcome line <;> rfl

theorem records_eq (line : Text) :
    records line (outcome line) = patternRecords line ++ dropRecords line := by
  rw [patternRecords_eq, dropRecords]
  cases outcome line with
  | dropped reason => rfl
  | blank | comment _ | cosmetic | accepted _ => exact (List.append_nil _).symm

end Line

namespace Compiler

/-- The records of a run are those of its lines, and as many tell of dropped lines and of patterns
that cannot be read as there were. -/
structure Recounts (lines : List Text) (compiler : Compiler) : Prop where
  records : compiler.records.reverse =
    lines.flatMap fun line => Line.patternRecords line ++ Line.dropRecords line
  dropped : compiler.records.countP (·.level = .trace) = compiler.tally.dropped
  broken : compiler.records.countP (·.isInvalidPattern) =
    compiler.placed.countP (·.entry.IsBroken)

theorem recounts_initial : ({} : Compiler).Recounts [] := ⟨rfl, rfl, rfl⟩

private theorem countP_level_placements (placements : List Placement) :
    (placements.flatMap (·.entry.records)).countP (·.level = .trace) = 0 := by
  induction placements with
  | nil => rfl
  | cons placement rest ih =>
    rw [List.flatMap_cons, List.countP_append, Entry.countP_level_records, ih]

private theorem countP_isInvalidPattern_placements (placements : List Placement) :
    (placements.flatMap (·.entry.records)).countP (·.isInvalidPattern) =
      placements.countP (·.entry.IsBroken) := by
  induction placements with
  | nil => rfl
  | cons placement rest ih =>
    rw [List.flatMap_cons, List.countP_append, Entry.countP_isInvalidPattern_records, ih,
      List.countP_cons, Nat.add_comm]
    simp

theorem Recounts.feed {lines : List Text} {compiler : Compiler}
    (recounts : compiler.Recounts lines) (line : Text) :
    (compiler.feed line).Recounts (lines ++ [line]) := by
  obtain ⟨records, dropped, broken⟩ := recounts
  rw [feed_eq]
  refine ⟨?_, ?_, ?_⟩
  · simp [records, Line.records_eq]
  · rw [List.countP_append, List.countP_reverse, dropped]
    cases Line.outcome line with
    | dropped reason => exact Nat.add_comm ..
    | blank | comment _ | cosmetic => exact Nat.zero_add _
    | accepted placements =>
      change (placements.flatMap (·.entry.records)).countP _ + _ = _
      rw [countP_level_placements, Nat.zero_add]
      rfl
  · rw [List.countP_append, List.countP_reverse, broken, List.countP_append, List.countP_reverse]
    cases Line.outcome line with
    | blank | comment _ | cosmetic | dropped _ => rfl
    | accepted placements =>
      exact congrArg (· + _) (countP_isInvalidPattern_placements placements)

theorem recounts_read (lines : List Text) : (read lines).Recounts lines := by
  induction lines using List.reverseRecOn with
  | nil => exact recounts_initial
  | append_singleton lines line ih =>
    have next := ih.feed line
    rwa [read, List.foldl_append]

end Compiler

/-- Entries of a kind are as many as there are of them in all tables. -/
theorem RuleSet.countP_placements (rules : RuleSet) (kind : Entry → Bool) :
    rules.placements.countP (kind ·.entry) =
      (Table.all.map fun table => (rules.table table).countP kind).sum := by
  calc rules.placements.countP (kind ·.entry)
    _ = (rules.only kind).size := List.countP_eq_length_filter
    _ = ((rules.only kind).counts.map Prod.snd).sum := (rules.only kind).size_eq_sum_counts
    _ = _ := by
      rw [counts, List.map_map]
      apply congrArg List.sum
      apply List.map_congr_left
      intro table _
      rw [List.countP_eq_length_filter, ← table_only]
      rfl

namespace Compilation

/-- The actions of a rule record a pattern when they read it, once for each entry that they place with
it. So the log of a list tells of its lines one after the other, and at its end of the whole list. Of a
line it tells by one record for each of its patterns that cannot be read, or by one that the line is
dropped and why, but never by both, and of other lines not at all. So the records at trace level are
as many as there are dropped lines, and those of patterns as many as the tables of the list hold that
cannot be read. -/
theorem log_accounts (lines : List Text) :
    (∀ rule, (Emission.exception rule).RecordsPlaced ∧ (Emission.blocking rule).RecordsPlaced) ∧
    (ofLines lines).log.map LogRecord.leveled =
      lines.flatMap (fun line =>
        (Line.patternRecords line).map (.debug, ·) ++ (Line.dropRecords line).map (.trace, ·)) ++
        [(.debug, .compiled (ofLines lines).rules.label (ofLines lines).tally.lines
          (ofLines lines).tally.entries (ofLines lines).tally.dropped)] ∧
    (∀ line, Line.patternRecords line = [] ∨ Line.dropRecords line = []) ∧
    (ofLines lines).log.countP (·.level = .trace) = (ofLines lines).tally.dropped ∧
    (ofLines lines).log.countP (·.isInvalidPattern) =
      (Table.all.map fun table => ((ofLines lines).rules.table table).countP (·.IsBroken)).sum := by
  obtain ⟨records, dropped, broken⟩ := Compiler.recounts_read lines
  have log : (ofLines lines).log = (Compiler.read lines).records.reverse ++
      [.compiled (ofLines lines).rules.label (ofLines lines).tally.lines
        (ofLines lines).tally.entries (ofLines lines).tally.dropped] := rfl
  refine ⟨fun rule => ⟨(Emission.emits_exception rule).recordsPlaced,
    (Emission.emits_blocking rule).recordsPlaced⟩, ?_, Line.patternRecords_eq_nil_or, ?_, ?_⟩
  · rw [log, records, List.map_append, List.map_flatMap]
    simp only [List.map_append, Line.leveled_patternRecords, Line.leveled_dropRecords]
    rfl
  · rw [log, List.countP_append, List.countP_reverse, dropped]
    rfl
  · rw [log, List.countP_append, List.countP_reverse, broken, ← RuleSet.countP_placements]
    exact List.countP_reverse.symm

end Compilation

end FilterList
