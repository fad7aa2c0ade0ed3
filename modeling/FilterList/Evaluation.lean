import FilterList.Domain
import FilterList.Request
import FilterList.RuleSet

/-!
Deciding a request against a list. The tables are tried one after the other and the first entry
that fires decides; every table of exceptions is tried before any table of blocks. Each evaluation
records the tables it went through.
-/

namespace FilterList

/-- Whether the entry matches the request in a table with this anchor. An entry of a kind that does
not belong there matches nothing. -/
def Entry.fires (entry : Entry) (anchor : Anchor) (request : Request) : Bool :=
  entry.domain.all (fun domain => request.pageHost.any (Domain.covers domain)) &&
    match entry.body, anchor with
    | .segments segments, .anywhere => occurIn segments.toList request.resource
    | .segments segments, .start => occurFromStart segments.toList request.resource
    | .segments segments, .stop => occurToEnd segments.toList request.resource
    | .regex pattern, .whole => pattern.isMatch request.resource
    | _, _ => false

/-- Why a table was passed over. -/
inductive SkipReason where
  | noPageHost
  | firstParty
  deriving Repr, DecidableEq

inductive Event where
  | skipped (table : Table) (reason : SkipReason)
  | checked (table : Table) (entries : Nat)
  | matched (placement : Placement)
  deriving DecidableEq

/-- The entry that decided a request, and the label of the list that holds it. -/
structure Hit where
  list : Text
  placement : Placement
  deriving DecidableEq

/-- What came of trying some tables, and what was done on the way. -/
structure Scan where
  hit : Option Hit
  events : List Event
  /-- The hits that were put on record. -/
  reported : List Hit
  deriving DecidableEq

namespace Scan

def empty : Scan := ⟨none, [], []⟩

def after (scan : Scan) (event : Event) : Scan := { scan with events := event :: scan.events }

/-- Goes on with a further scan where nothing has been hit yet. -/
def orElse (scan : Scan) (next : Unit → Scan) : Scan :=
  match scan.hit with
  | some _ => scan
  | none =>
    let next := next ()
    ⟨next.hit, scan.events ++ next.events, scan.reported ++ next.reported⟩

end Scan

/-- Why a table with this scope does not apply, if it does not. -/
def Request.skipReason? (request : Request) (scope : Scope) : Option SkipReason :=
  if request.admits scope then none
  else if request.pageHost.isNone then some .noPageHost
  else some .firstParty

namespace RuleSet

/-- Tries tables in order up to the first entry that fires. -/
def scan (rules : RuleSet) (request : Request) : List Table → Scan
  | [] => .empty
  | table :: rest =>
    match request.skipReason? table.scope with
    | some reason => (rules.scan request rest).after (.skipped table reason)
    | none =>
      let entries := rules.table table
      match entries.find? fun entry => entry.fires table.anchor request with
      | some entry =>
        let hit : Hit := ⟨rules.label, table, entry⟩
        ⟨some hit, [.checked table entries.length, .matched ⟨table, entry⟩], [hit]⟩
      | none => (rules.scan request rest).after (.checked table entries.length)

def findException (rules : RuleSet) (request : Request) : Scan :=
  rules.scan request Table.exceptions

def findBlock (rules : RuleSet) (request : Request) : Scan := rules.scan request Table.blocks

def evaluate (rules : RuleSet) (request : Request) : Scan :=
  (rules.findException request).orElse fun _ => rules.findBlock request

end RuleSet

/-- The verdict on a request: allowed for want of a matching rule, or decided by an entry. -/
inductive Decision where
  | unmatched
  | decided (placement : Placement)
  deriving DecidableEq

namespace Decision

def ofHit? : Option Hit → Decision
  | none => unmatched
  | some hit => decided hit.placement

def isBlocked : Decision → Bool
  | unmatched => false
  | decided placement => !placement.table.isException

def placement? : Decision → Option Placement
  | unmatched => none
  | decided placement => some placement

def render : Decision → String
  | unmatched => "no rule matched"
  | decided ⟨table, entry⟩ =>
    let verdict := if table.isException then "allowed" else "blocked"
    verdict ++ " by " ++ table.name ++ " [" ++ entry.render ++ "]"

end Decision

def RuleSet.decide (rules : RuleSet) (request : Request) : Decision :=
  .ofHit? (rules.evaluate request).hit

end FilterList
