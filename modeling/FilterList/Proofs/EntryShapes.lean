import FilterList.Evaluation
import FilterList.Proofs.CompilerRun
import FilterList.Proofs.PlacedEntries

/-! Every entry of a compiled list is of the shape that its table wants, so none is passed over for
being of another kind than its table. -/

namespace FilterList

/-- How URLs are tried against a body in a table with this anchor. There is no way to try a body of
another kind than the table's. -/
def Body.tester? : Body → Anchor → Option (Text → Bool)
  | .segments parts, .anywhere => some (occurIn parts.toList)
  | .segments parts, .start => some (occurFromStart parts.toList)
  | .segments parts, .stop => some (occurToEnd parts.toList)
  | .regex pattern, .whole => some pattern.isMatch
  | .segments _, .whole => none
  | .regex _, _ => none

/-- Only an entry that cannot be tried matches nothing whatever the request. -/
theorem Entry.fires_eq_tester? (entry : Entry) (anchor : Anchor) (request : Request) :
    entry.fires anchor request =
      (entry.domain.all (fun domain => request.pageHost.any (Domain.covers domain)) &&
        (entry.body.tester? anchor).any fun test => test request.resource) := by
  unfold Entry.fires
  cases entry.body <;> cases anchor <;> rfl

namespace Segments
variable (parts : Segments)

theorem size_pos : 1 ≤ parts.size := List.length_pos_of_ne_nil parts.ne_nil

theorem getElem?_first : parts.toList[0]? = some parts.first := by
  rw [first, ← List.head?_eq_getElem?, List.head?_eq_some_head]

theorem getElem?_last : parts.toList[parts.size - 1]? = some parts.last := by
  rw [last, size, ← List.getLast?_eq_getElem?, List.getLast?_eq_some_getLast]

end Segments

structure Entry.ShapedFor (table : Table) (entry : Entry) : Prop where
  regex : entry.isRegex = true ↔ table.anchor = .whole
  limited : entry.domain.isSome = true ↔ table.scope.domain = true
  size : ∀ parts, entry.body = .segments parts → 1 ≤ parts.size ∧ parts.size ≤ 5
  ends : ∀ parts, entry.body = .segments parts →
    parts.toList[0]? = some parts.first ∧ parts.toList[parts.size - 1]? = some parts.last
  segments : ∀ parts, entry.body = .segments parts →
    (∀ segment ∈ parts.toList, '*' ∉ segment ∧ '^' ∉ segment) ∧ ∃ segment ∈ parts.toList, segment ≠ []
  source : ∀ pattern, entry.body = .regex pattern → pattern.source ≠ [] ∧ '^' ∉ pattern.source
  domain : ∀ domain, entry.domain = some domain →
    domain ≠ [] ∧ '|' ∉ domain ∧ ',' ∉ domain ∧ '^' ∉ domain
  tried : ∃ test, entry.body.tester? table.anchor = some test ∧ ∀ request,
    entry.fires table.anchor request =
      (entry.domain.all (fun domain => request.pageHost.any (Domain.covers domain)) &&
        test request.resource)

theorem Body.isSome_tester?_iff {body : Body} {anchor : Anchor} :
    (body.tester? anchor).isSome = true ↔ (body.isRegex = true ↔ anchor = .whole) := by
  cases body <;> cases anchor <;> simp [tester?, isRegex]

theorem Placement.Follows.shaped {marked thirdParty : Bool} {domains : Option Text} {text : Text}
    {placement : Placement} (follows : placement.Follows marked thirdParty domains text)
    (noCaret : '^' ∉ text) (inText : ∀ list, domains = some list → list ⊆ text ∧ ',' ∉ list) :
    placement.entry.ShapedFor placement.table := by
  have drawn := follows.drawn
  have regex : placement.entry.isRegex = true ↔ placement.table.anchor = .whole := by
    rw [follows.takes.anchor, decide_eq_true_iff]
  obtain ⟨test, known⟩ := Option.isSome_iff_exists.mp (Body.isSome_tester?_iff.mpr regex)
  refine ⟨regex, ?_, ?_, ?_, ?_, ?_, ?_, test, known, ?_⟩
  · rw [follows.takes.scope]
  · exact fun parts _ => ⟨parts.size_pos, parts.length_le⟩
  · exact fun parts _ => ⟨parts.getElem?_first, parts.getElem?_last⟩
  · intro parts isSegments
    rw [isSegments] at drawn
    obtain ⟨each, filled⟩ := drawn
    refine ⟨?_, filled⟩
    intro segment among
    obtain ⟨inside, noStar⟩ := each segment among
    exact ⟨noStar, fun caret => noCaret (inside caret)⟩
  · intro pattern isPattern
    rw [isPattern] at drawn
    obtain ⟨inside, filled⟩ := drawn
    exact ⟨filled, fun caret => noCaret (inside caret)⟩
  · intro domain named
    obtain ⟨list, given, item, listed, ending, filled, _⟩ := follows.listed domain named
    obtain ⟨inList, noBar, _⟩ := Rule.mem_domainItems listed
    obtain ⟨listInText, noComma⟩ := inText list given
    have inItem := ending.subset
    exact ⟨filled, fun bar => noBar (inItem bar), fun comma => noComma (inList (inItem comma)),
      fun caret => noCaret (listInText (inList (inItem caret)))⟩
  · intro request
    rw [Entry.fires_eq_tester?, known, Option.any_some]

namespace Line

theorem caret_not_mem_content (line : Text) : '^' ∉ content line := by
  simp [content]

theorem rule?_subset {line rule : Text} (found : rule? line = some rule) : rule ⊆ content line := by
  obtain ⟨_, same⟩ := Option.ite_none_left_eq_some.mp found
  cases same
  exact List.Subset.trans (Text.dropLead_subset ..) (Text.dropLead_subset ..)

end Line

namespace Compilation

/-- Every entry of a compiled list is of its table's kind: a regular expression where the table
anchors one, and with a domain where the table is for pages of domains. It has something to match,
and no mark of the rule language is left in its parts. So in the evaluation each entry is tried in
the way of its table. -/
theorem shaped_of_compiled (lines : List Text) (table : Table) :
    ∀ entry ∈ (ofLines lines).rules.table table, entry.ShapedFor table := by
  intro entry compiled
  have placed := RuleSet.mem_table.mp compiled
  rw [placements_ofLines] at placed
  obtain ⟨line, _, placed⟩ := List.mem_flatMap.mp placed
  obtain ⟨rule, found, follows⟩ := Line.follows_of_placed placed
  refine follows.shaped (Line.caret_not_mem_content line) fun list given => ?_
  obtain ⟨inRule, noComma⟩ := Rule.domains_optionsRead given
  exact ⟨List.Subset.trans inRule (Line.rule?_subset found), noComma⟩

theorem shaped_of_compiled_exempt :
    let line := "||cdn.net^*/s.js$third-party,domain=a.net|~b.net".toList
    let parts : Segments := ⟨["cdn.net".toList, "/s.js".toList], by decide, by decide⟩
    let entry : Entry := ⟨some "b.net".toList, .segments parts⟩
    entry ∈ (ofLines [line]).rules.table .exceptionThirdPartyDomain ∧
      entry.ShapedFor .exceptionThirdPartyDomain := by
  intro line parts entry
  have compiled : entry ∈ (ofLines [line]).rules.table .exceptionThirdPartyDomain := by
    decide +kernel
  exact ⟨compiled, shaped_of_compiled [line] _ entry compiled⟩

end Compilation

end FilterList
