import FilterList.Proofs.PlacedEntries
import FilterList.Proofs.RuleReading

/-! What is placed for a written rule. Every form of rule has a table and a limit of its own, and
apart from these all are placed alike: one entry for each domain, or one for all pages. -/

namespace FilterList

def WrittenPattern.IsBareScheme (pattern : WrittenPattern) : Prop :=
  ∃ scheme ∈ ["http://", "https://", "http:", "https:"], pattern.text = scheme.toList

/-- How rules of one form are taken up. -/
structure RuleForm where
  table : Table
  limit : Nat
  /-- A pattern that pins nothing but a scheme is refused. -/
  refusesScheme : Bool
  deriving Repr, DecidableEq

def RuleForm.admit (form : RuleForm) (pattern : Text) : Except Rule.Rejection Unit :=
  if form.refusesScheme then Rule.refuseBareScheme pattern else .ok ()

namespace WrittenRule
variable (rule : WrittenRule)

/-- One entry for each domain, or one for all pages. -/
def placements (table : Table) (body : Body) : List Placement :=
  if rule.domains = [] then [⟨table, none, body⟩]
  else rule.domains.map fun domain => ⟨table, some domain.name, body⟩

/-- The pattern has neither too many segments for the form nor is it refused for want of more than
a scheme. -/
def Fits (form : RuleForm) : Prop :=
  rule.pattern.size ≤ form.limit ∧ ¬ (form.refusesScheme = true ∧ rule.pattern.IsBareScheme)

/-- What comes of a rule that is taken up in a form. -/
def place (form : RuleForm) : Except Rule.Rejection (List Placement) := do
  form.admit rule.pattern.text
  let segments ← Rule.segmentsOf rule.pattern.text form.limit
  return rule.placements form.table (.segments segments)

end WrittenRule

namespace WrittenPattern
variable (pattern : WrittenPattern)

theorem refuseBareScheme_text :
    pattern.IsBareScheme ∧ Rule.refuseBareScheme pattern.text = .error .bareScheme ∨
      ¬ pattern.IsBareScheme ∧ Rule.refuseBareScheme pattern.text = .ok () := by
  have found : pattern.IsBareScheme ↔ (["http://", "https://", "http:", "https:"].any
      fun scheme => pattern.text == scheme.toList) = true := by
    simp only [IsBareScheme, List.any_eq_true, beq_iff_eq]
  unfold Rule.refuseBareScheme
  by_cases bare : pattern.IsBareScheme
  · exact .inl ⟨bare, if_pos (found.mp bare)⟩
  · exact .inr ⟨bare, if_neg (found.not.mp bare)⟩

theorem admit_text (form : RuleForm) :
    (form.refusesScheme = true ∧ pattern.IsBareScheme) ∧
      form.admit pattern.text = .error .bareScheme ∨
    ¬ (form.refusesScheme = true ∧ pattern.IsBareScheme) ∧ form.admit pattern.text = .ok () := by
  unfold RuleForm.admit
  cases form.refusesScheme with
  | false => exact .inr ⟨fun wide => Bool.false_ne_true wide.1, rfl⟩
  | true =>
    obtain ⟨bare, refused⟩ | ⟨notBare, passed⟩ := pattern.refuseBareScheme_text
    · exact .inl ⟨⟨rfl, bare⟩, refused⟩
    · exact .inr ⟨fun wide => notBare wide.2, passed⟩

theorem segmentsOf_text {limit : Nat} (bounded : limit ≤ maxSegments) :
    (∃ segments : Segments, segments.toList = pattern.segments ∧ pattern.size ≤ limit ∧
      Rule.segmentsOf pattern.text limit = .ok segments) ∨
    limit < pattern.size ∧
      Rule.segmentsOf pattern.text limit = .error (.tooManySegments limit) := by
  obtain ⟨c, rest, shape, literal⟩ := pattern.exists_text_cons
  have solid : ∃ c ∈ pattern.text, c ≠ '*' :=
    ⟨c, shape ▸ List.mem_cons_self, ne_of_isLiteral literal (by decide)⟩
  have cases := Rule.segmentsOf_cases solid bounded
  rwa [pieces_text] at cases

end WrittenPattern

namespace WrittenRule
variable (rule : WrittenRule)

/-- A rule that fits its form is taken up, and any other is rejected. -/
theorem place_cases {form : RuleForm} (bounded : form.limit ≤ maxSegments) :
    (rule.Fits form ∧ ∃ segments : Segments, segments.toList = rule.pattern.segments ∧
      rule.place form = .ok (rule.placements form.table (.segments segments))) ∨
    (¬ rule.Fits form ∧ ∃ reason ∈ [.bareScheme, .tooManySegments form.limit],
      rule.place form = .error reason) := by
  obtain ⟨wide, refused⟩ | ⟨notWide, passed⟩ := rule.pattern.admit_text form
  · refine .inr ⟨fun fits => fits.2 wide, _, List.mem_cons_self, ?_⟩
    rw [place, refused]
    rfl
  · obtain ⟨segments, same, few, kept⟩ | ⟨many, dropped⟩ := rule.pattern.segmentsOf_text bounded
    · refine .inl ⟨⟨few, notWide⟩, segments, same, ?_⟩
      rw [place, passed, kept]
      rfl
    · refine .inr ⟨fun fits => Nat.not_le_of_lt many fits.1, _,
        List.mem_cons_of_mem _ List.mem_cons_self, ?_⟩
      rw [place, passed, dropped]
      rfl

theorem table_placements {rule : WrittenRule} {table : Table} {body : Body} {placement : Placement}
    (placed : placement ∈ rule.placements table body) : placement.table = table := by
  unfold placements at placed
  split at placed
  · rw [List.mem_singleton.mp placed]
  · obtain ⟨domain, _, rfl⟩ := List.mem_map.mp placed
    rfl

end WrittenRule

namespace WrittenDomain
variable (domain : WrittenDomain)

theorem exists_name_cons : ∃ c rest, domain.name = c :: rest ∧ c ≠ '~' := by
  obtain ⟨c, rest, shape⟩ := List.exists_cons_of_ne_nil domain.ne_nil
  have literal := List.all_eq_true.mp domain.literal c (by simp [shape])
  simp only [isDomainLiteral, Bool.and_eq_true] at literal
  exact ⟨c, rest, shape, ne_of_isLiteral literal.1 (by decide)⟩

theorem exempt?_text :
    Rule.exempt? domain.text = if domain.negated then some domain.name else none := by
  obtain ⟨c, rest, shape, noTilde⟩ := domain.exists_name_cons
  unfold Rule.exempt? text
  cases domain.negated with
  | true => simp [shape]
  | false => simp [shape, noTilde]

theorem isNegated_text : Rule.isNegated domain.text = domain.negated := by
  obtain ⟨c, rest, shape, noTilde⟩ := domain.exists_name_cons
  unfold Rule.isNegated text
  cases domain.negated with
  | true => rfl
  | false => simp [shape, noTilde]

theorem text_of_not_negated (plain : domain.negated = false) : domain.text = domain.name := by
  rw [text, plain, if_neg Bool.false_ne_true]

end WrittenDomain

namespace WrittenRule
variable {rule : WrittenRule}

def NegatesNone (rule : WrittenRule) : Prop := ∀ domain ∈ rule.domains, domain.negated = false

theorem domainText?_of_listed (listed : rule.domains ≠ []) :
    rule.domainText? = some rule.domainText := if_neg listed

theorem placePattern_text (everywhere : rule.domains = []) (table : Table) (limit : Nat) :
    Rule.placePattern table rule.pattern.text limit = rule.place ⟨table, limit, false⟩ := by
  simp only [place, RuleForm.admit, placements, if_pos everywhere]
  rfl

theorem placeForDomains_text (listed : rule.domains ≠ []) (positive : rule.NegatesNone)
    (table : Table) (body : Body) :
    Rule.placeForDomains table rule.domainText body = .ok (rule.placements table body) := by
  have kept : (rule.domains.map WrittenDomain.text).filter (!Rule.isNegated ·) =
      rule.domains.map WrittenDomain.text := by
    apply List.filter_eq_self.mpr
    intro item member
    obtain ⟨domain, among, rfl⟩ := List.mem_map.mp member
    rw [domain.isNegated_text, positive domain among]
    rfl
  have named : (rule.domains.map WrittenDomain.text).map
      (fun name => Placement.mk table ⟨some name, body⟩) =
      rule.domains.map fun domain => Placement.mk table ⟨some domain.name, body⟩ := by
    rw [List.map_map]
    apply List.map_congr_left
    intro domain among
    rw [Function.comp_apply, domain.text_of_not_negated (positive domain among)]
  have filled : (rule.domains.map fun domain =>
      Placement.mk table ⟨some domain.name, body⟩).isEmpty = false := by simpa using listed
  rw [Rule.placeForDomains, rule.domainItems_domainText, kept, named, Rule.orNoUsableDomain,
    filled, if_neg Bool.false_ne_true, placements, if_neg listed]

theorem placeForDomains_segments (listed : rule.domains ≠ []) (positive : rule.NegatesNone)
    (table : Table) (limit : Nat) :
    (do Rule.placeForDomains table rule.domainText
          (.segments (← Rule.segmentsOf rule.pattern.text limit))) =
      rule.place ⟨table, limit, false⟩ := by
  simp only [placeForDomains_text listed positive]
  rfl

theorem placeStartForDomains_text (listed : rule.domains ≠ []) (positive : rule.NegatesNone)
    (table : Table) :
    Rule.placeStartForDomains table rule.domainText rule.pattern.text =
      rule.place ⟨table, maxSegments, true⟩ := by
  unfold Rule.placeStartForDomains
  simp only [placeForDomains_text listed positive]
  rfl

end WrittenRule

end FilterList
