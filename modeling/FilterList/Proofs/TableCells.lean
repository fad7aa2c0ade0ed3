import FilterList.Proofs.CompilerRun
import FilterList.Proofs.DistinctEntries
import FilterList.RuleTables
import Mathlib.Data.List.Nodup

/-! The tables of a list are cells of their own. A push writes to one of them and leaves the others
alone, so after any run of pushes a table has what was pushed to it, in that order. The list of all
placements in their order, as the rules are kept elsewhere, has the same entries in every table. -/

namespace FilterList

/-- The entries that some pushes put in a table, in the order of the pushes. -/
def pushedTo (table : Table) (pushes : List Placement) : List Entry :=
  (pushes.filter (·.table = table)).map Placement.entry

section Pushes
variable (table : Table)

theorem pushedTo_cons (push : Placement) (rest : List Placement) :
    pushedTo table (push :: rest) =
      (if push.table = table then [push.entry] else []) ++ pushedTo table rest := by
  unfold pushedTo
  by_cases here : push.table = table <;> simp [here]

theorem pushedTo_append (first second : List Placement) :
    pushedTo table (first ++ second) = pushedTo table first ++ pushedTo table second := by
  unfold pushedTo
  rw [List.filter_append, List.map_append]

theorem pushedTo_map (target : Table) (entries : List Entry) :
    pushedTo table (entries.map (Placement.mk target)) = if target = table then entries else [] := by
  induction entries with
  | nil => simp [pushedTo]
  | cons entry rest ih =>
    rw [List.map_cons, pushedTo_cons, ih]
    by_cases here : target = table <;> simp [here]

/-- Where each table gets its entries in its turn, one that has its turn once gets just these. -/
theorem pushedTo_flatMap (contents : Table → List Entry) {tables : List Table}
    (once : tables.Nodup) :
    pushedTo table (tables.flatMap fun target => (contents target).map (Placement.mk target)) =
      if table ∈ tables then contents table else [] := by
  induction tables with
  | nil => rfl
  | cons target rest ih =>
    obtain ⟨absent, once⟩ := List.nodup_cons.mp once
    rw [List.flatMap_cons, pushedTo_append, pushedTo_map, ih once]
    by_cases here : target = table
    · -- The table has had its turn and gets nothing from the tables further on.
      subst here
      simp [absent]
    · simp [here, Ne.symm here]

theorem RuleSet.table_eq_pushedTo (rules : RuleSet) :
    rules.table table = pushedTo table rules.placements := by
  unfold RuleSet.table pushedTo
  induction rules.placements with
  | nil => rfl
  | cons placement rest ih =>
    by_cases here : placement.table = table <;> simp [here, ih]

end Pushes

namespace RuleTables

def pushAll (tables : RuleTables) (pushes : List Placement) : RuleTables :=
  pushes.foldl (fun tables push => tables.push push.table push.entry) tables

section Cells
variable (tables : RuleTables)

theorem table_push (target table : Table) (entry : Entry) :
    (tables.push target entry).table table =
      tables.table table ++ if target = table then [entry] else [] := by
  unfold push
  by_cases here : target = table
  · subst here
    rw [table_update_self, if_pos rfl]
  · rw [table_update_of_ne tables _ here, if_neg here, List.append_nil]

theorem header_push (target : Table) (entry : Entry) :
    (tables.push target entry).header = tables.header := header_update ..

theorem header_pushAll (pushes : List Placement) :
    (tables.pushAll pushes).header = tables.header := by
  induction pushes generalizing tables with
  | nil => rfl
  | cons push rest ih => exact (ih _).trans (tables.header_push push.table push.entry)

/-- Each push of a run adds to one table, so a table sees only its own part of the run. -/
theorem table_pushAll (pushes : List Placement) (table : Table) :
    (tables.pushAll pushes).table table = tables.table table ++ pushedTo table pushes := by
  induction pushes generalizing tables with
  | nil => exact (List.append_nil _).symm
  | cons push rest ih =>
    calc ((tables.push push.table push.entry).pushAll rest).table table
      _ = (tables.push push.table push.entry).table table ++ pushedTo table rest := ih _
      _ = tables.table table ++ pushedTo table (push :: rest) := by
        rw [table_push, List.append_assoc, pushedTo_cons]

theorem map_fst_counts : tables.counts.map Prod.fst = Table.all := by
  unfold counts
  rw [List.map_map]
  exact List.map_id Table.all

theorem mem_counts_iff {table : Table} {count : Nat} :
    (table, count) ∈ tables.counts ↔ count = (tables.table table).length := by
  constructor
  · intro member
    obtain ⟨other, _, same⟩ := List.mem_map.mp member
    cases same
    rfl
  · rintro rfl
    exact List.mem_map_of_mem (Table.mem_all table)

theorem size_eq_sum_counts : tables.size = (tables.counts.map Prod.snd).sum := by
  unfold size counts
  rw [List.map_map]
  rfl

/-- Every table filled in its turn, each without regard to the others. -/
theorem exists_pushAll_eq : ∃ pushes, pushAll { header := tables.header } pushes = tables := by
  refine ⟨Table.all.flatMap fun table => (tables.table table).map (Placement.mk table), ?_⟩
  apply ext_table
  · exact header_pushAll ..
  · intro table
    rw [table_pushAll, pushedTo_flatMap table tables.table Table.nodup_all,
      if_pos (Table.mem_all table)]
    cases table <;> rfl

/-- Where each table has its turn once, all that have one are changed, and the others are not. -/
theorem table_foldl_update (change : List Entry → List Entry) {targets : List Table}
    (once : targets.Nodup) (table : Table) :
    (targets.foldl (fun tables target => tables.update change target) tables).table table =
      if table ∈ targets then change (tables.table table) else tables.table table := by
  induction targets generalizing tables with
  | nil => rfl
  | cons target rest ih =>
    obtain ⟨absent, once⟩ := List.nodup_cons.mp once
    rw [List.foldl_cons, ih _ once]
    by_cases here : target = table
    · subst here
      simp [absent]
    · simp [table_update_of_ne tables change here, Ne.symm here]

theorem table_distinct (table : Table) :
    tables.distinct.table table = (tables.table table).eraseDups := by
  unfold distinct
  rw [table_foldl_update tables _ Table.nodup_all, if_pos (Table.mem_all table)]

theorem header_distinct : tables.distinct.header = tables.header := by
  unfold distinct
  induction Table.all generalizing tables with
  | nil => rfl
  | cons target rest ih => exact (ih _).trans (header_update ..)

end Cells

end RuleTables

namespace RuleSet
variable (rules : RuleSet)

theorem header_tables : rules.tables.header = rules.header := RuleTables.header_pushAll ..

theorem table_tables (table : Table) : rules.tables.table table = rules.table table := by
  rw [table_eq_pushedTo]
  refine (RuleTables.table_pushAll { header := rules.header } rules.placements table).trans ?_
  cases table <;> rfl

theorem counts_tables : rules.tables.counts = rules.counts := by
  unfold RuleTables.counts counts
  simp only [table_tables]

theorem size_tables : rules.tables.size = rules.size := by
  rw [RuleTables.size_eq_sum_counts, counts_tables, size_eq_sum_counts]

theorem tables_push (target : Table) (entry : Entry) :
    (rules.push target entry).tables = rules.tables.push target entry :=
  List.foldl_concat ..

/-- Repeats that are removed table by table are those removed among all placements. -/
theorem tables_distinct : rules.distinct.tables = rules.tables.distinct := by
  apply RuleTables.ext_table
  · rw [header_tables, RuleTables.header_distinct, header_tables]
    rfl
  · intro table
    rw [table_tables, table_distinct, RuleTables.table_distinct, table_tables,
      eraseDups_eq_firstOccurrences]

theorem exists_tables_eq (tables : RuleTables) : ∃ rules : RuleSet, rules.tables = tables := by
  obtain ⟨pushes, filled⟩ := tables.exists_pushAll_eq
  exact ⟨⟨tables.header, pushes⟩, filled⟩

end RuleSet

namespace RuleTables

theorem size_push (tables : RuleTables) (target : Table) (entry : Entry) :
    (tables.push target entry).size = tables.size + 1 := by
  obtain ⟨rules, rfl⟩ := RuleSet.exists_tables_eq tables
  rw [← RuleSet.tables_push, RuleSet.size_tables, RuleSet.size_tables, RuleSet.size_push]

theorem size_pushAll (tables : RuleTables) (pushes : List Placement) :
    (tables.pushAll pushes).size = tables.size + pushes.length := by
  induction pushes generalizing tables with
  | nil => exact (Nat.add_zero _).symm
  | cons push rest ih =>
    refine (ih (tables.push push.table push.entry)).trans ?_
    rw [size_push, List.length_cons]
    omega

/-- Compiling pushes what the lines place, line by line. -/
theorem tables_ofLines (lines : List Text) :
    (Compilation.ofLines lines).rules.tables =
      pushAll { header := (Compilation.ofLines lines).rules.header }
        (lines.flatMap fun line => (Line.outcome line).placements) := by
  rw [← Compilation.placements_ofLines]
  rfl

/-- A push adds its entry at the end of its own table and changes no other table, nor the header.
The counts name every table once, in the order they are tried, with its length, and the size is
their sum. A run of pushes leaves each table with what was pushed to it, in that order. So the list of
placements that rules are kept in has the same tables, counts and size, before a push and after it;
every record is that of some list, and that of a compiled list is what its lines push. -/
theorem tables_independent (tables : RuleTables) :
    (∀ target entry,
      (∀ table, (tables.push target entry).table table =
        tables.table table ++ if target = table then [entry] else []) ∧
      (tables.push target entry).header = tables.header ∧
      (tables.push target entry).size = tables.size + 1) ∧
    (tables.counts.map Prod.fst = Table.all ∧ Table.all.length = 22 ∧
      (∀ table, Table.all.count table = 1) ∧
      (∀ table count, (table, count) ∈ tables.counts ↔ count = (tables.table table).length) ∧
      tables.size = (tables.counts.map Prod.snd).sum) ∧
    (∀ pushes,
      (∀ table, (tables.pushAll pushes).table table =
        tables.table table ++ pushedTo table pushes) ∧
      (tables.pushAll pushes).header = tables.header ∧
      (tables.pushAll pushes).size = tables.size + pushes.length) ∧
    (∃ rules : RuleSet, rules.tables = tables) ∧
    (∀ rules : RuleSet,
      rules.tables.header = rules.header ∧
      (∀ table, rules.tables.table table = rules.table table) ∧
      rules.tables.counts = rules.counts ∧ rules.tables.size = rules.size ∧
      ∀ target entry, (rules.push target entry).tables = rules.tables.push target entry) ∧
    ∀ lines, (Compilation.ofLines lines).rules.tables =
      pushAll { header := (Compilation.ofLines lines).rules.header }
        (lines.flatMap fun line => (Line.outcome line).placements) := by
  refine ⟨?push, ⟨tables.map_fst_counts, rfl, ?once, fun _ _ => tables.mem_counts_iff,
    tables.size_eq_sum_counts⟩, ?run, RuleSet.exists_tables_eq tables, ?kept,
    tables_ofLines⟩
  case push =>
    intro target entry
    exact ⟨fun table => tables.table_push target table entry, tables.header_push target entry,
      tables.size_push target entry⟩
  case once =>
    intro table
    exact List.count_eq_one_of_mem Table.nodup_all (Table.mem_all table)
  case run =>
    intro pushes
    exact ⟨tables.table_pushAll pushes, tables.header_pushAll pushes, tables.size_pushAll pushes⟩
  case kept =>
    intro rules
    exact ⟨rules.header_tables, rules.table_tables, rules.counts_tables, rules.size_tables,
      rules.tables_push⟩

end RuleTables

end FilterList
