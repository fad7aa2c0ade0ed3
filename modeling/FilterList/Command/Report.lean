import FilterList.Json.Value
import FilterList.LoadedList
import FilterList.Measurement

/-!
The lines that commands print.
-/

namespace FilterList.Command

/-- The text filled up with blanks on the right. -/
def padded (width : Nat) (text : String) : String := text.pushn ' ' (width - text.length)

/-- How a list compiled. Empty tables are named only where everything is asked for. -/
def compileLines (verbose : Bool) (list : LoadedList) (milliseconds : Float) : List String :=
  let tally := list.tally
  let reduction := list.reduction
  [String.ofList list.rules.label ++ " (" ++ String.ofList (Path.fileName list.path) ++ ")"] ++
    (list.rules.header.version.toList.map fun version => "  Version:  " ++ String.ofList version) ++
    ["  Lines:    " ++ toString tally.lines ++ " (" ++ toString tally.blank ++ " blank, " ++
        toString tally.comments ++ " comments, " ++ toString tally.cosmetic ++ " cosmetic)",
      "  Filters:  " ++ toString tally.accepted ++ " accepted, " ++ toString tally.dropped ++
        " dropped",
      "  Entries:  " ++ toString reduction.before ++ " -> " ++ toString reduction.after ++
        " (dedupe removed " ++ toString reduction.removed ++ ")",
      "  Time:     " ++ Decimal.ofFloat 1 milliseconds ++ "ms"] ++
    (list.rules.counts.filter fun (_, count) => count > 0 || verbose).map fun (table, count) =>
      "    " ++ padded 45 table.name ++ " " ++ toString count

/-- The same as data, with the tables in the order of their names. -/
def compileJson (list : LoadedList) (milliseconds : Float) : Json :=
  let tally := list.tally
  let counts := list.rules.counts.mergeSort fun (left, _) (right, _) => left.name ≤ right.name
  .object [
    ("path", .string list.path),
    ("metadata", .object [
      ("title", .ofText? list.rules.header.title),
      ("version", .ofText? list.rules.header.version)]),
    ("lines", .ofNat tally.lines),
    ("blank", .ofNat tally.blank),
    ("comments", .ofNat tally.comments),
    ("cosmetic", .ofNat tally.cosmetic),
    ("dropped", .ofNat tally.dropped),
    ("accepted", .ofNat tally.accepted),
    ("entries", .ofNat tally.entries),
    ("deduped", .ofNat list.reduction.removed),
    ("compileMs", .number (Decimal.ofFloat 1 milliseconds)),
    ("tables", .object (counts.map fun (table, count) => (table.name, .ofNat count)))]

/-- A table and its entries. -/
def tableLines (rules : RuleSet) (table : Table) : List String :=
  let entries := rules.table table
  (table.name ++ " (" ++ toString entries.length ++ ")") ::
    entries.map fun entry => "  " ++ entry.render

/-- The table asked for, or all that hold anything. -/
def dumpLines (rules : RuleSet) : Option Table → List String
  | some table => tableLines rules table
  | none => (Table.all.filter fun table => !(rules.table table).isEmpty).flatMap (tableLines rules)

def eventLine : Event → String
  | .skipped table .noPageHost => "  skip    " ++ table.name ++ " (NoPageDomain)"
  | .skipped table .firstParty => "  skip    " ++ table.name ++ " (FirstParty)"
  | .checked table entries => "  check   " ++ table.name ++ " (" ++ toString entries ++ " entries)"
  | .matched placement =>
    "  match   " ++ placement.table.name ++ " [" ++ placement.entry.render ++ "]"

def verdictLine (verdict : Verdict) : String :=
  match verdict.list with
  | some list => verdict.decision.render ++ " (" ++ String.ofList list ++ ")"
  | none => verdict.decision.render

def segmentsJson (segments : Segments) : Json := .array (segments.toList.map .string)

def entryJson (entry : Entry) : Json :=
  match entry.domain, entry.body with
  | none, .segments parts =>
    .object [("kind", .string "pattern".toList), ("segments", segmentsJson parts)]
  | some domain, .segments parts =>
    .object [("kind", .string "domain".toList), ("domain", .string domain),
      ("segments", segmentsJson parts)]
  | none, .regex pattern =>
    .object [("kind", .string "regex".toList), ("regex", .string pattern.source)]
  | some domain, .regex pattern =>
    .object [("kind", .string "domainRegex".toList), ("domain", .string domain),
      ("regex", .string pattern.source)]

/-- The members that tell of a decision. -/
def decisionMembers (decision : Decision) : List (String × Json) :=
  [("blocked", .bool decision.isBlocked),
    ("matchedTable", (decision.placement?.map fun placement =>
      Json.string placement.table.name.toList).getD .null),
    ("matchedEntry", (decision.placement?.map fun placement =>
      entryJson placement.entry).getD .null)]

def verdictMembers (verdict : Verdict) : List (String × Json) :=
  decisionMembers verdict.decision ++ [("list", .ofText? verdict.list)]

/-- A request with the verdict on it. -/
def replyJson (probe : Probe) (verdict : Verdict) : Json :=
  .object ([("page", .string probe.page), ("url", .string probe.resource)] ++
    verdictMembers verdict)

end FilterList.Command
