import FilterList.RuleSet
import Mathlib.Algebra.GroupWithZero.Nat

/-!
A compiled list with a field for each of its tables. Reading a table and writing to one choose the
field each by themselves.
-/

namespace FilterList

structure RuleTables where
  header : Header := {}
  exception : List Entry := []
  exceptionFinal : List Entry := []
  exceptionDomain : List Entry := []
  exceptionDomainInitial : List Entry := []
  exceptionDomainFinal : List Entry := []
  exceptionThirdParty : List Entry := []
  exceptionThirdPartyDomain : List Entry := []
  exceptionThirdPartyDomainInitial : List Entry := []
  block : List Entry := []
  blockInitial : List Entry := []
  blockFinal : List Entry := []
  blockDomain : List Entry := []
  blockDomainInitial : List Entry := []
  blockDomainFinal : List Entry := []
  blockDomainRegex : List Entry := []
  blockThirdParty : List Entry := []
  blockThirdPartyInitial : List Entry := []
  blockThirdPartyDomain : List Entry := []
  blockThirdPartyDomainInitial : List Entry := []
  blockThirdPartyRegex : List Entry := []
  blockThirdPartyDomainRegex : List Entry := []
  blockRegex : List Entry := []
  deriving DecidableEq

namespace RuleTables

/-- The entries of a table. -/
def table (tables : RuleTables) : Table → List Entry
  | .exception => tables.exception
  | .exceptionFinal => tables.exceptionFinal
  | .exceptionDomain => tables.exceptionDomain
  | .exceptionDomainInitial => tables.exceptionDomainInitial
  | .exceptionDomainFinal => tables.exceptionDomainFinal
  | .exceptionThirdParty => tables.exceptionThirdParty
  | .exceptionThirdPartyDomain => tables.exceptionThirdPartyDomain
  | .exceptionThirdPartyDomainInitial => tables.exceptionThirdPartyDomainInitial
  | .block => tables.block
  | .blockInitial => tables.blockInitial
  | .blockFinal => tables.blockFinal
  | .blockDomain => tables.blockDomain
  | .blockDomainInitial => tables.blockDomainInitial
  | .blockDomainFinal => tables.blockDomainFinal
  | .blockDomainRegex => tables.blockDomainRegex
  | .blockThirdParty => tables.blockThirdParty
  | .blockThirdPartyInitial => tables.blockThirdPartyInitial
  | .blockThirdPartyDomain => tables.blockThirdPartyDomain
  | .blockThirdPartyDomainInitial => tables.blockThirdPartyDomainInitial
  | .blockThirdPartyRegex => tables.blockThirdPartyRegex
  | .blockThirdPartyDomainRegex => tables.blockThirdPartyDomainRegex
  | .blockRegex => tables.blockRegex

/-- Changes the entries of a table. -/
def update (tables : RuleTables) (change : List Entry → List Entry) : Table → RuleTables
  | .exception => { tables with exception := change tables.exception }
  | .exceptionFinal => { tables with exceptionFinal := change tables.exceptionFinal }
  | .exceptionDomain => { tables with exceptionDomain := change tables.exceptionDomain }
  | .exceptionDomainInitial =>
    { tables with exceptionDomainInitial := change tables.exceptionDomainInitial }
  | .exceptionDomainFinal =>
    { tables with exceptionDomainFinal := change tables.exceptionDomainFinal }
  | .exceptionThirdParty => { tables with exceptionThirdParty := change tables.exceptionThirdParty }
  | .exceptionThirdPartyDomain =>
    { tables with exceptionThirdPartyDomain := change tables.exceptionThirdPartyDomain }
  | .exceptionThirdPartyDomainInitial =>
    { tables with exceptionThirdPartyDomainInitial := change tables.exceptionThirdPartyDomainInitial }
  | .block => { tables with block := change tables.block }
  | .blockInitial => { tables with blockInitial := change tables.blockInitial }
  | .blockFinal => { tables with blockFinal := change tables.blockFinal }
  | .blockDomain => { tables with blockDomain := change tables.blockDomain }
  | .blockDomainInitial => { tables with blockDomainInitial := change tables.blockDomainInitial }
  | .blockDomainFinal => { tables with blockDomainFinal := change tables.blockDomainFinal }
  | .blockDomainRegex => { tables with blockDomainRegex := change tables.blockDomainRegex }
  | .blockThirdParty => { tables with blockThirdParty := change tables.blockThirdParty }
  | .blockThirdPartyInitial =>
    { tables with blockThirdPartyInitial := change tables.blockThirdPartyInitial }
  | .blockThirdPartyDomain =>
    { tables with blockThirdPartyDomain := change tables.blockThirdPartyDomain }
  | .blockThirdPartyDomainInitial =>
    { tables with blockThirdPartyDomainInitial := change tables.blockThirdPartyDomainInitial }
  | .blockThirdPartyRegex =>
    { tables with blockThirdPartyRegex := change tables.blockThirdPartyRegex }
  | .blockThirdPartyDomainRegex =>
    { tables with blockThirdPartyDomainRegex := change tables.blockThirdPartyDomainRegex }
  | .blockRegex => { tables with blockRegex := change tables.blockRegex }

/-- Puts an entry at the end of a table. -/
def push (tables : RuleTables) (target : Table) (entry : Entry) : RuleTables :=
  tables.update (· ++ [entry]) target

/-- Every table with the first of each of its entries, one table after the other. -/
def distinct (tables : RuleTables) : RuleTables :=
  Table.all.foldl (fun tables table => tables.update List.eraseDups table) tables

def size (tables : RuleTables) : Nat := (Table.all.map fun table => (tables.table table).length).sum

def counts (tables : RuleTables) : List (Table × Nat) :=
  Table.all.map fun table => (table, (tables.table table).length)

@[simp] theorem table_update_self (tables : RuleTables) (change : List Entry → List Entry)
    (target : Table) : (tables.update change target).table target = change (tables.table target) := by
  cases target <;> rfl

@[simp] theorem header_update (tables : RuleTables) (change : List Entry → List Entry)
    (target : Table) : (tables.update change target).header = tables.header := by
  cases target <;> rfl

theorem table_update_of_ne (tables : RuleTables) (change : List Entry → List Entry)
    {target table : Table} (other : target ≠ table) :
    (tables.update change target).table table = tables.table table := by
  cases target <;> cases table <;> first | rfl | exact absurd rfl other

/-- Lists that have the same header and the same entries in every table are the same. -/
theorem ext_table {left right : RuleTables} (header : left.header = right.header)
    (tables : ∀ table, left.table table = right.table table) : left = right := by
  obtain ⟨_⟩ := left
  obtain ⟨_⟩ := right
  have each := tables
  simp only [mk.injEq]
  exact ⟨header, each .exception, each .exceptionFinal, each .exceptionDomain, each
    .exceptionDomainInitial, each .exceptionDomainFinal, each .exceptionThirdParty, each
    .exceptionThirdPartyDomain, each .exceptionThirdPartyDomainInitial, each .block, each
    .blockInitial, each .blockFinal, each .blockDomain, each .blockDomainInitial, each
    .blockDomainFinal, each .blockDomainRegex, each .blockThirdParty, each
    .blockThirdPartyInitial, each .blockThirdPartyDomain, each .blockThirdPartyDomainInitial,
    each .blockThirdPartyRegex, each .blockThirdPartyDomainRegex, each .blockRegex⟩

end RuleTables

/-- The tables that the placements of a list fill, one after the other. -/
def RuleSet.tables (rules : RuleSet) : RuleTables :=
  rules.placements.foldl (fun tables placement => tables.push placement.table placement.entry)
    { header := rules.header }

end FilterList
