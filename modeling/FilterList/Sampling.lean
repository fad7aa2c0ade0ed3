import FilterList.Subscriptions

/-!
Requests to measure with: some shaped after a list's own entries so that these fire, and others
that lists normally let through.
-/

namespace FilterList

/-- A page and the resource it asks for. -/
structure Probe where
  page : Text
  resource : Text
  deriving Repr, DecidableEq

namespace Probe

def request (probe : Probe) : Request := .ofUrls probe.page probe.resource

def plainPage : Text := "https://page.bench.test/".toList

def resourceHost : Text := "https://cdn.bench.test".toList

/-- A request for an entry of a table, unless the entry or the table is one of regular
expressions. -/
def ofPlacement? (placement : Placement) : Option Probe := do
  let segments ← placement.entry.segments?
  let path := Text.join ['/'] segments.toList
  let resource ← match placement.table.anchor with
    | .start => some path
    | .stop => some (resourceHost ++ '/' :: path)
    | .anywhere => some (resourceHost ++ '/' :: path ++ "/x".toList)
    | .whole => none
  let page := match placement.entry.domain with
    | some domain =>
      if placement.table.scope.domain then "https://".toList ++ domain ++ ['/'] else plainPage
    | none => plainPage
  return ⟨page, resource⟩

def cleanPaths : List Text :=
  ["/app.js", "/style.css", "/logo.png", "/api/data", "/font.woff2"].map String.toList

def clean (index : Nat) : Probe where
  page := plainPage
  resource := plainPage ++ "static".toList ++ Text.ofNat (index % 7) ++
    cleanPaths.getD (index % cleanPaths.length) [] ++ "?v=".toList ++ Text.ofNat index

def cleans (count : Nat) : List Probe := (List.range count).map clean

end Probe

/-- Passes over `skip` items, takes one, and so on with `stride - 1` passed over in between. -/
def everyNth (stride : Nat) : Nat → List α → List α
  | _, [] => []
  | 0, x :: rest => x :: everyNth stride (stride - 1) rest
  | skip + 1, _ :: rest => everyNth stride skip rest

namespace RuleSet

/-- The entries that are no regular expressions, table by table. -/
def shapeable (rules : RuleSet) : List Placement :=
  Table.all.flatMap fun table =>
    ((rules.table table).filter (!·.isRegex)).map fun entry => ⟨table, entry⟩

/-- Up to `sample` requests shaped after entries at even distances. -/
def probes (rules : RuleSet) (sample : Nat) : List Probe :=
  let entries := rules.shapeable
  let stride := max (entries.length / max sample 1) 1
  ((everyNth stride 0 entries).take sample).filterMap Probe.ofPlacement?

end RuleSet

/-- How many of the requests are blocked. -/
def Subscriptions.countBlocked (subscriptions : Subscriptions) (probes : List Probe) : Nat :=
  probes.countP fun probe => (subscriptions.decide probe.request).decision.isBlocked

end FilterList
