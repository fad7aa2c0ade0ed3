import FilterList.LoadedList
import FilterList.Proofs.CompilerRun
import FilterList.Proofs.DistinctEntries
import FilterList.Proofs.RuleOutcomes

/-! The counts that reports give of a list. Each line is counted once, under its kind, and each entry
that stands in a table is counted with the line that placed it. What was removed from a loaded list
and what is left of it add up to what its lines placed. -/

namespace FilterList

/-- An action that keeps a rule has put on top of what stood there as many entries as it says. -/
theorem Emission.Emits.counts {action : Emission Nat} {plan : Except Rule.Rejection (List Placement)}
    (emits : action.Emits plan) (filled : plan ≠ .ok []) {compiler after : Compiler} {count : Nat}
    (ran : action.run.run compiler = (.ok count, after)) :
    0 < count ∧ after.placed.length = compiler.placed.length + count ∧
      compiler.placed <:+ after.placed ∧ after.tally = compiler.tally := by
  obtain ⟨placements, rfl, rfl, rfl⟩ := emits.after_ok ran
  have nonempty : placements ≠ [] := fun none => filled (congrArg Except.ok none)
  refine ⟨List.length_pos_of_ne_nil nonempty, ?_, List.suffix_append .., rfl⟩
  simp [Compiler.after, Nat.add_comm]

namespace Compiler

/-- The counts agree with the lines that were read and with the entries that were placed. -/
structure Accounts (lines : List Text) (compiler : Compiler) : Prop where
  lines : compiler.tally.lines = lines.length
  kinds : compiler.tally.lines = compiler.tally.blank + compiler.tally.comments +
    compiler.tally.cosmetic + compiler.tally.dropped + compiler.tally.accepted
  entries : compiler.tally.entries = compiler.placed.length
  accepted_le : compiler.tally.accepted ≤ compiler.tally.entries
  none_placed : compiler.tally.accepted = 0 → compiler.placed = []

theorem accounts_initial : ({} : Compiler).Accounts [] :=
  ⟨rfl, rfl, rfl, Nat.le_refl 0, fun _ => rfl⟩

theorem Accounts.feed {lines : List Text} {compiler : Compiler}
    (accounts : compiler.Accounts lines) (line : Text) :
    (compiler.feed line).Accounts (lines ++ [line]) := by
  obtain ⟨counted, kinds, entries, least, unplaced⟩ := accounts
  rw [feed_eq]
  cases shape : Line.outcome line with
  | blank | comment _ | cosmetic | dropped _ =>
    refine ⟨by simp [Tally.count, counted], ?_, entries, least, unplaced⟩
    simp only [Tally.count]
    omega
  | accepted placements =>
    -- Without an entry to show for it the line would have been dropped.
    have filled := List.length_pos_of_ne_nil (Line.placements_ne_nil shape)
    simp only [Tally.count, Line.Outcome.placements]
    refine ⟨by simp [counted], ?_, by simp [entries, Nat.add_comm], ?_, nofun⟩
    · dsimp only
      omega
    · dsimp only
      omega

theorem accounts_read (lines : List Text) : (read lines).Accounts lines := by
  induction lines using List.reverseRecOn with
  | nil => exact accounts_initial
  | append_singleton lines line ih =>
    have next := ih.feed line
    rwa [read, List.foldl_append]

end Compiler

namespace RuleSet
variable (rules : RuleSet)

theorem placements_eq_nil_iff :
    rules.placements = [] ↔ ∀ table, rules.table table = [] := by
  constructor
  · intro none table
    rw [RuleSet.table, none]
    rfl
  · intro none
    apply List.eq_nil_iff_forall_not_mem.mpr
    intro placement placed
    exact List.not_mem_nil (none placement.table ▸ mem_table.mpr placed)

theorem after_add_removed : rules.reduction.after + rules.reduction.removed = rules.size :=
  Nat.add_sub_of_le (length_eraseDups_le _)

end RuleSet

namespace Compilation

theorem entries_ofLines (lines : List Text) :
    (ofLines lines).tally.entries = (ofLines lines).rules.size :=
  (Compiler.accounts_read lines).entries.trans List.length_reverse.symm

/-- Whatever an action returns as its count, so many entries it has placed, and at least one. So every
line of a list is counted once under its kind, and entries as many as the tables hold. An accepted
line has one at least, so no line is accepted just where all tables are empty. Of a file that can be
read, the report gives as many entries before the reduction as the lines placed, and as many after it
as the tables of the loaded list hold, those removed taken off. -/
theorem tally_accounts :
    (∀ (compiler after : Compiler) (rule : Text) (count : Nat),
      (Emission.exception rule).run.run compiler = (.ok count, after) ∨
        (Emission.blocking rule).run.run compiler = (.ok count, after) →
      0 < count ∧ after.placed.length = compiler.placed.length + count ∧
        compiler.placed <:+ after.placed ∧ after.tally = compiler.tally) ∧
    (∀ lines : List Text,
      (ofLines lines).tally.lines = lines.length ∧
      lines.length = (ofLines lines).tally.blank + (ofLines lines).tally.comments +
        (ofLines lines).tally.cosmetic + (ofLines lines).tally.dropped +
        (ofLines lines).tally.accepted ∧
      (ofLines lines).tally.entries = (ofLines lines).rules.size ∧
      (ofLines lines).rules.size = ((ofLines lines).rules.counts.map Prod.snd).sum ∧
      (ofLines lines).tally.accepted ≤ (ofLines lines).tally.entries ∧
      ((ofLines lines).tally.accepted = 0 ↔ ∀ table, (ofLines lines).rules.table table = [])) ∧
    ∀ (files : Files) (path : Text) (bytes : Bytes), files path = .ok bytes →
      ∃ list, LoadedList.load files path = .ok list ∧
        list.reduction.before = list.tally.entries ∧
        (list.rules.counts.map Prod.snd).sum = list.reduction.after ∧
        list.reduction.removed ≤ list.tally.entries ∧
        list.reduction.after = list.tally.entries - list.reduction.removed := by
  refine ⟨?_, ?_, ?_⟩
  · rintro compiler after rule count (ran | ran)
    · exact (Emission.emits_exception rule).counts (Rule.exception_settles rule).filled ran
    · exact (Emission.emits_blocking rule).counts (Rule.blocking_settles rule).filled ran
  · intro lines
    obtain ⟨counted, kinds, _, least, unplaced⟩ := Compiler.accounts_read lines
    have entries := entries_ofLines lines
    refine ⟨counted, counted ▸ kinds, entries, RuleSet.size_eq_sum_counts _, least, ?_⟩
    rw [← RuleSet.placements_eq_nil_iff]
    constructor
    · intro none
      exact List.reverse_eq_nil_iff.mpr (unplaced none)
    · intro none
      have empty : (ofLines lines).rules.size = 0 := List.length_eq_zero_iff.mpr none
      exact Nat.le_zero.mp (empty ▸ entries ▸ least)
  · intro files path bytes readable
    refine ⟨LoadedList.ofBytes path bytes, by rw [LoadedList.load, readable], ?_⟩
    -- The title that loading puts in is no entry, so the reduced list is counted as it is.
    have entries : (LoadedList.ofBytes path bytes).tally.entries = (ofBytes bytes).rules.size :=
      entries_ofLines _
    have parted : (LoadedList.ofBytes path bytes).reduction.after +
        (LoadedList.ofBytes path bytes).reduction.removed = (ofBytes bytes).rules.size :=
      RuleSet.after_add_removed _
    refine ⟨entries.symm, (RuleSet.size_eq_sum_counts _).symm, ?_, ?_⟩
    · omega
    · omega

theorem tally_accounts_of_every_kind :
    let start := "[Adblock]\r\n! Title: T\n\n##.ad\n/p$third-party,domain=a|~b|c\n".toList
    let rest := "\n/q$~third-party\n/p$third-party,domain=~b|d".toList
    let bytes := Text.toUtf8 start ++ 0xFF :: Text.toUtf8 rest
    let files := (FileTree.ofPaths [("list.txt".toList, bytes)]).read
    (∃ after, (Emission.blocking "/p$third-party,domain=a|~b|c".toList).run.run {} = (.ok 4, after) ∧
      after.placed.length = 4) ∧
    files "list.txt".toList = .ok bytes ∧
    ∃ list, LoadedList.load files "list.txt".toList = .ok list ∧
      (list.rules.counts.map Prod.snd).sum = list.reduction.after ∧
      list.reduction.after = list.tally.entries - list.reduction.removed ∧
      list.tally = ⟨8, 1, 1, 2, 1, 3, 8⟩ ∧ list.reduction.removed = 2 := by
  intro start rest bytes files
  have readable : files "list.txt".toList = .ok bytes := rfl
  obtain ⟨list, loaded, _, counts, _, after⟩ :=
    tally_accounts.2.2 files "list.txt".toList bytes readable
  have counted : (Rule.blocking "/p$third-party,domain=a|~b|c".toList).map List.length = .ok 4 := by
    decide +kernel
  obtain ⟨placed, ran⟩ := (Emission.emits_blocking _).run_of_length counted {}
  refine ⟨⟨placed, ran, (tally_accounts.1 _ _ _ _ (.inr ran)).2.1⟩, readable, list, loaded, counts,
    after, ?_⟩
  have same : list = LoadedList.ofBytes "list.txt".toList bytes := by
    rw [LoadedList.load, readable] at loaded
    exact (Except.ok.inj loaded).symm
  subst same
  decide +kernel

end Compilation

end FilterList
