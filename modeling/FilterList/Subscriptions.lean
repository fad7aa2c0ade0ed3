import FilterList.Evaluation

/-!
Several lists in force together. An exception in any list beats a block in every list.
-/

namespace FilterList

structure Subscriptions where
  lists : List RuleSet := []
  deriving DecidableEq

/-- A decision and the label of the list that made it. -/
structure Verdict where
  decision : Decision
  list : Option Text
  deriving DecidableEq

def Verdict.ofScan (scan : Scan) : Verdict := ⟨.ofHit? scan.hit, scan.hit.map Hit.list⟩

namespace Subscriptions

def add (subscriptions : Subscriptions) (rules : RuleSet) : Subscriptions :=
  ⟨subscriptions.lists ++ [rules]⟩

/-- Runs one phase through the lists up to the first that has an answer. -/
def phase (find : RuleSet → Scan) : List RuleSet → Scan
  | [] => .empty
  | rules :: rest => (find rules).orElse fun _ => phase find rest

def evaluate (subscriptions : Subscriptions) (request : Request) : Scan :=
  (phase (·.findException request) subscriptions.lists).orElse fun _ =>
    phase (·.findBlock request) subscriptions.lists

def decide (subscriptions : Subscriptions) (request : Request) : Verdict :=
  .ofScan (subscriptions.evaluate request)

end Subscriptions

end FilterList
