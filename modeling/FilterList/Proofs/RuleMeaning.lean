import FilterList.Proofs.CompilerRun
import FilterList.Proofs.DecisionOrder
import FilterList.Proofs.RulePlacing

/-! What a written rule means for a request, said without tables. Where its table suits the rule,
what is placed for it fires on just the requests that the rule applies to. -/

namespace FilterList

def Pin.anchor : Pin → Anchor
  | anywhere => .anywhere
  | start => .start
  | stop => .stop

namespace WrittenPattern
variable (pattern : WrittenPattern)

/-- The URL has all segments, the pinned one in its place. -/
def MatchesAt : Pin → Text → Prop
  | .anywhere, url => ∀ segment ∈ pattern.segments, segment <:+: url
  | .start, url => pattern.segments.head pattern.ne_nil <+: url ∧
      ∀ segment ∈ pattern.segments.tail, segment <:+: url
  | .stop, url => pattern.segments.getLast pattern.ne_nil <:+ url ∧
      ∀ segment ∈ pattern.segments.dropLast, segment <:+: url

end WrittenPattern

def Request.IsOn (request : Request) (domain : Text) : Prop :=
  ∃ host, request.pageHost = some host ∧ Domain.covers domain host = true

def WrittenDomain.Covers (domain : WrittenDomain) (request : Request) : Prop :=
  request.IsOn domain.name

namespace WrittenRule
variable (rule : WrittenRule)

def Applies (request : Request) : Prop :=
  (rule.thirdParty = true → request.isThirdParty = true) ∧
  (rule.domains ≠ [] → ∃ domain ∈ rule.domains, domain.Covers request) ∧
  rule.pattern.MatchesAt rule.pin request.resource

end WrittenRule

theorem Request.admits_iff {request : Request} {scope : Scope} :
    request.admits scope = true ↔ (scope.domain = true → request.pageHost.isSome = true) ∧
      (scope.thirdParty = true → request.isThirdParty = true) := by
  simp only [admits, Bool.and_eq_true, Bool.or_eq_true, Bool.not_eq_true', ← Bool.not_eq_true]
  simp only [← imp_iff_not_or]

theorem Request.isOn_iff {request : Request} {domain : Option Text} :
    domain.all (fun name => request.pageHost.any (Domain.covers name)) = true ↔
      ∀ name, domain = some name → request.IsOn name := by
  simp [Option.all_eq_true, Option.any_eq_true, Request.IsOn]

theorem WrittenPattern.fires_iff (pattern : WrittenPattern) {segments : Segments}
    (same : segments.toList = pattern.segments) (pin : Pin) {table : Table}
    (anchored : table.anchor = pin.anchor) (domain : Option Text) (request : Request) :
    (Placement.mk table ⟨domain, .segments segments⟩).fires request = true ↔
      request.admits table.scope = true ∧ (∀ name, domain = some name → request.IsOn name) ∧
      pattern.MatchesAt pin request.resource := by
  unfold Placement.fires Entry.fires
  rw [Bool.and_eq_true, Bool.and_eq_true, anchored, Request.isOn_iff]
  apply and_congr_right
  intro _
  apply and_congr_right
  intro _
  cases pin with
  | anywhere =>
    change occurIn segments.toList request.resource = true ↔ _
    rw [same]
    exact occurIn_iff
  | start =>
    change occurFromStart segments.toList request.resource = true ↔ _
    rw [same]
    exact occurFromStart_iff pattern.ne_nil
  | stop =>
    change occurToEnd segments.toList request.resource = true ↔ _
    rw [same]
    exact occurToEnd_iff pattern.ne_nil

/-- The form's table pins and limits its entries as the rule wants it. -/
structure RuleForm.Suits (form : RuleForm) (rule : WrittenRule) : Prop where
  anchor : form.table.anchor = rule.pin.anchor
  scope : form.table.scope = ⟨!rule.domains.isEmpty, rule.thirdParty⟩
  bounded : form.limit ≤ maxSegments

namespace WrittenRule
variable {rule : WrittenRule} {form : RuleForm} {segments : Segments}

/-- What a rule places fires for the parties and on the pages it is limited to, where its body
matches. -/
theorem exists_fires_iff {table : Table} {body : Body} {request : Request} {found : Prop}
    (scope : table.scope = ⟨!rule.domains.isEmpty, rule.thirdParty⟩)
    (fires : ∀ domain, (Placement.mk table ⟨domain, body⟩).fires request = true ↔
      request.admits table.scope = true ∧ (∀ name, domain = some name → request.IsOn name) ∧ found) :
    (∃ placement ∈ rule.placements table body, placement.fires request = true) ↔
      (rule.thirdParty = true → request.isThirdParty = true) ∧
      (rule.domains ≠ [] → ∃ domain ∈ rule.domains, domain.Covers request) ∧ found := by
  have admits : request.admits table.scope = true ↔
      (rule.domains ≠ [] → request.pageHost.isSome = true) ∧
        (rule.thirdParty = true → request.isThirdParty = true) := by
    rw [scope, Request.admits_iff]
    simp
  unfold placements
  by_cases everywhere : rule.domains = []
  · rw [if_pos everywhere]
    simp [fires, admits, everywhere]
  · rw [if_neg everywhere]
    constructor
    · intro ⟨placement, placed, fired⟩
      obtain ⟨domain, listed, rfl⟩ := List.mem_map.mp placed
      obtain ⟨admitted, onPage, found⟩ := (fires _).mp fired
      exact ⟨(admits.mp admitted).2, fun _ => ⟨domain, listed, onPage _ rfl⟩, found⟩
    · intro ⟨party, onPage, found⟩
      obtain ⟨domain, listed, host, known, covered⟩ := onPage everywhere
      refine ⟨_, List.mem_map.mpr ⟨domain, listed, rfl⟩, (fires _).mpr ⟨admits.mpr ⟨?_, party⟩, ?_, found⟩⟩
      · intro _
        simp [known]
      · rintro name ⟨⟩
        exact ⟨host, known, covered⟩

theorem exists_fires_placements_iff (suits : form.Suits rule)
    (same : segments.toList = rule.pattern.segments) (request : Request) :
    (∃ placement ∈ rule.placements form.table (.segments segments),
      placement.fires request = true) ↔ rule.Applies request :=
  exists_fires_iff suits.scope fun domain =>
    rule.pattern.fires_iff same rule.pin suits.anchor domain request

theorem exists_hits_iff {line : Text} (taken : Line.outcome line = .ofRule (rule.place form))
    (suits : form.Suits rule) (kind : Table → Prop) (request : Request) :
    (∃ table, kind table ∧ (Compilation.ofLines [line]).rules.Hits request table) ↔
      kind form.table ∧ rule.Fits form ∧ rule.Applies request := by
  rw [RuleSet.exists_hits_iff, Compilation.rules_ofLine, taken]
  obtain ⟨fits, segments, same, placed⟩ | ⟨unfit, reason, _, rejected⟩ :=
    rule.place_cases suits.bounded
  · rw [placed, ← exists_fires_placements_iff suits same request]
    constructor
    · intro ⟨placement, member, of, fired⟩
      exact ⟨table_placements member ▸ of, fits, placement, member, fired⟩
    · intro ⟨of, _, placement, member, fired⟩
      exact ⟨placement, member, (table_placements member).symm ▸ of, fired⟩
  · rw [rejected]
    constructor
    · intro ⟨placement, member, _⟩
      cases member
    · intro ⟨_, fits, _⟩
      exact absurd fits unfit

theorem dropped_of_not_fits {line : Text} (taken : Line.outcome line = .ofRule (rule.place form))
    (suits : form.Suits rule) (unfit : ¬ rule.Fits form) :
    (Compilation.ofLines [line]).tally.dropped = 1 ∧
      (Compilation.ofLines [line]).rules.size = 0 := by
  rw [Compilation.tally_ofLine, Compilation.rules_ofLine, taken]
  obtain ⟨fits, _⟩ | ⟨_, reason, _, rejected⟩ := rule.place_cases suits.bounded
  · exact absurd fits unfit
  · rw [rejected]
    exact ⟨rfl, rfl⟩

end WrittenRule

end FilterList
