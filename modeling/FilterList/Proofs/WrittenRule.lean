import FilterList.Proofs.TextCutting

/-! Rules as they are written, of parts that stand for themselves: literal segments with stars
between them, bars that pin the pattern, and the options that limit a rule. The text of a rule shows
at its ends and by its characters where each part begins. -/

namespace FilterList

/-- Characters that stand for themselves in the pattern of a rule. -/
def isLiteral (c : Char) : Bool :=
  !Text.isBlank c && !(['*', '|', '$', '^', '\\', '~', '#'].contains c)

def isDomainLiteral (c : Char) : Bool := isLiteral c && !([',', '/'].contains c)

/-- Characters that a written rule may have at all. -/
def isWritten (c : Char) : Bool := !Text.isBlank c && !(['^', '\\', '#'].contains c)

theorem ne_of_isLiteral {c special : Char} (literal : isLiteral c = true)
    (refused : isLiteral special = false) : c ≠ special := by
  intro same
  rw [same, refused] at literal
  cases literal

theorem not_isBlank_of_isWritten {c : Char} (plain : isWritten c = true) :
    Text.isBlank c = false := by
  simp only [isWritten, Bool.and_eq_true, Bool.not_eq_true'] at plain
  exact plain.1

theorem isWritten_of_isLiteral {c : Char} (literal : isLiteral c = true) : isWritten c = true := by
  simp only [isLiteral, isWritten, List.contains_cons, Bool.and_eq_true, Bool.not_eq_true',
    Bool.or_eq_false_iff] at literal ⊢
  simp [literal]

structure WrittenPattern where
  segments : List Text
  ne_nil : segments ≠ []
  literal : ∀ segment ∈ segments, segment ≠ [] ∧ segment.all isLiteral = true

structure WrittenDomain where
  negated : Bool
  name : Text
  ne_nil : name ≠ []
  literal : name.all isDomainLiteral = true

/-- Where in a URL a rule wants its pattern. -/
inductive Pin where
  | anywhere
  | start
  | stop
  deriving Repr, DecidableEq

/-- A rule without domains is for all pages. -/
structure WrittenRule where
  hostMark : Bool
  pin : Pin
  pattern : WrittenPattern
  thirdParty : Bool
  domains : List WrittenDomain

namespace WrittenPattern
variable (pattern : WrittenPattern)

def text : Text := Text.join ['*'] pattern.segments

def size : Nat := pattern.segments.length

def first : Text := pattern.segments.head pattern.ne_nil

/-- A line that starts with the pattern is no comment, no header in brackets and no exception. -/
def OpensBlock : Prop :=
  ∀ mark ∈ ["!".toList, "[".toList, "@@".toList], ¬ mark <+: pattern.first

theorem pieces_text : pattern.text.pieces '*' = pattern.segments := by
  apply Text.pieces_join pattern.ne_nil
  intro segment member star
  have literal := List.all_eq_true.mp (pattern.literal segment member).2 _ star
  exact absurd literal (by decide)

theorem mem_text {c : Char} (member : c ∈ pattern.text) : c = '*' ∨ isLiteral c = true := by
  obtain star | ⟨segment, among, inside⟩ := Text.mem_join member
  · exact .inl (List.mem_singleton.mp star)
  · exact .inr (List.all_eq_true.mp (pattern.literal segment among).2 c inside)

theorem text_eq_first_append :
    ∃ rest, pattern.text = pattern.first ++ rest ∧ (rest = [] ∨ rest.head? = some '*') := by
  obtain ⟨segments, ne_nil, literal⟩ := pattern
  cases segments with
  | nil => exact absurd rfl ne_nil
  | cons segment rest =>
    refine ⟨_, Text.join_cons .., ?_⟩
    cases rest with
    | nil => exact .inl rfl
    | cons _ _ => exact .inr rfl

theorem exists_first_cons : ∃ c rest, pattern.first = c :: rest ∧ isLiteral c = true := by
  obtain ⟨filled, literal⟩ := pattern.literal _ (List.head_mem pattern.ne_nil)
  obtain ⟨c, rest, shape⟩ := List.exists_cons_of_ne_nil filled
  refine ⟨c, rest, shape, ?_⟩
  rw [shape] at literal
  exact List.all_eq_true.mp literal c List.mem_cons_self

theorem exists_text_cons : ∃ c rest, pattern.text = c :: rest ∧ isLiteral c = true := by
  obtain ⟨after, shape, _⟩ := pattern.text_eq_first_append
  obtain ⟨c, rest, opening, literal⟩ := pattern.exists_first_cons
  exact ⟨c, rest ++ after, by rw [shape, opening, List.cons_append], literal⟩

theorem exists_text_concat : ∃ before c, pattern.text = before ++ [c] ∧ isLiteral c = true := by
  obtain ⟨filled, literal⟩ := pattern.literal _ (List.getLast_mem pattern.ne_nil)
  obtain ⟨before, same⟩ := Text.getLast_suffix_join ['*'] pattern.ne_nil
  refine ⟨before ++ (pattern.segments.getLast pattern.ne_nil).dropLast,
    (pattern.segments.getLast pattern.ne_nil).getLast filled, ?_,
    List.all_eq_true.mp literal _ (List.getLast_mem filled)⟩
  rw [List.append_assoc, List.dropLast_append_getLast, same, text]

end WrittenPattern

namespace Pin

/-- A bar stands where the pattern is pinned. -/
def write : Pin → Text → Text
  | anywhere, pattern => pattern
  | start, pattern => '|' :: pattern
  | stop, pattern => pattern ++ ['|']

variable (pin : Pin) (pattern : WrittenPattern)

theorem mem_write {c : Char} (member : c ∈ pin.write pattern.text) :
    c = '|' ∨ c ∈ pattern.text := by
  cases pin with
  | anywhere => exact .inr member
  | start => exact List.mem_cons.mp member
  | stop =>
    obtain inside | bar := List.mem_append.mp member
    · exact .inr inside
    · exact .inl (List.mem_singleton.mp bar)

theorem not_hostMark_prefix (rest : Text) :
    ¬ "||".toList <+: pin.write pattern.text ++ rest := by
  obtain ⟨c, after, shape, literal⟩ := pattern.exists_text_cons
  have other : '|' ≠ c := (ne_of_isLiteral literal (by decide)).symm
  cases pin <;> simp [write, shape, other]

theorem dropLead_write :
    (pin.write pattern.text).dropLead "||".toList = pin.write pattern.text := by
  apply Text.dropLead_eq_self
  have plain := pin.not_hostMark_prefix pattern []
  rwa [List.append_nil] at plain

theorem isPrefixOf?_write :
    ['|'].isPrefixOf? (pin.write pattern.text) =
      if pin = .start then some pattern.text else none := by
  obtain ⟨c, rest, shape, literal⟩ := pattern.exists_text_cons
  have noBar : c ≠ '|' := ne_of_isLiteral literal (by decide)
  rw [shape]
  cases pin with
  | start => exact List.isPrefixOf?_eq_some_iff_append_eq.mpr rfl
  | anywhere => exact Text.isPrefixOf?_singleton_cons noBar rest
  | stop => exact Text.isPrefixOf?_singleton_cons noBar (rest ++ ['|'])

theorem isSuffixOf?_write :
    ['|'].isSuffixOf? (pin.write pattern.text) =
      if pin = .stop then some pattern.text else none := by
  obtain ⟨before, c, shape, literal⟩ := pattern.exists_text_concat
  have noBar : c ≠ '|' := ne_of_isLiteral literal (by decide)
  rw [shape]
  cases pin with
  | stop => exact List.isSuffixOf?_eq_some_iff_append_eq.mpr rfl
  | anywhere => exact Text.isSuffixOf?_singleton_concat noBar before
  | start => exact Text.isSuffixOf?_singleton_concat noBar ('|' :: before)

theorem dropLead_star_write :
    (pin.write pattern.text).dropLead ['*'] = pin.write pattern.text := by
  obtain ⟨c, rest, shape, literal⟩ := pattern.exists_text_cons
  have noStar : c ≠ '*' := ne_of_isLiteral literal (by decide)
  rw [shape]
  cases pin with
  | start => exact Text.dropLead_singleton_cons (by decide) (c :: rest)
  | anywhere => exact Text.dropLead_singleton_cons noStar rest
  | stop => exact Text.dropLead_singleton_cons noStar (rest ++ ['|'])

theorem exists_write_concat :
    ∃ before c, pin.write pattern.text = before ++ [c] ∧ c ≠ '*' := by
  obtain ⟨before, c, shape, literal⟩ := pattern.exists_text_concat
  have noStar : c ≠ '*' := ne_of_isLiteral literal (by decide)
  rw [shape]
  cases pin with
  | start => exact ⟨'|' :: before, c, rfl, noStar⟩
  | anywhere => exact ⟨before, c, rfl, noStar⟩
  | stop => exact ⟨before ++ [c], '|', rfl, by decide⟩

theorem dropTail_star_write :
    (pin.write pattern.text).dropTail ['*'] = pin.write pattern.text := by
  obtain ⟨before, c, shape, noStar⟩ := pin.exists_write_concat pattern
  rw [shape]
  exact Text.dropTail_singleton_concat noStar before

end Pin

namespace WrittenDomain

def text (domain : WrittenDomain) : Text :=
  if domain.negated then '~' :: domain.name else domain.name

theorem text_ne_nil (domain : WrittenDomain) : domain.text ≠ [] := by
  unfold text
  split
  · exact List.cons_ne_nil _ _
  · exact domain.ne_nil

theorem isWritten_text (domain : WrittenDomain) {c : Char} (member : c ∈ domain.text) :
    isWritten c = true ∧ c ≠ ',' ∧ c ≠ '|' := by
  have ofName (inside : c ∈ domain.name) : isWritten c = true ∧ c ≠ ',' ∧ c ≠ '|' := by
    have literal := List.all_eq_true.mp domain.literal c inside
    simp only [isDomainLiteral, Bool.and_eq_true] at literal
    refine ⟨isWritten_of_isLiteral literal.1, ?_, ne_of_isLiteral literal.1 (by decide)⟩
    rintro rfl
    exact absurd literal.2 (by decide)
  unfold text at member
  split at member
  · obtain rfl | inside := List.mem_cons.mp member
    · decide
    · exact ofName inside
  · exact ofName member

theorem exists_text_concat (domain : WrittenDomain) :
    ∃ before c, domain.text = before ++ [c] ∧ c ≠ '|' := by
  have inside := List.getLast_mem domain.text_ne_nil
  exact ⟨domain.text.dropLast, domain.text.getLast domain.text_ne_nil,
    (List.dropLast_append_getLast _).symm, (domain.isWritten_text inside).2.2⟩

end WrittenDomain

namespace WrittenRule
variable (rule : WrittenRule)

def written : Text := rule.pin.write rule.pattern.text

def domainText : Text := Text.join ['|'] (rule.domains.map WrittenDomain.text)

def domainText? : Option Text := if rule.domains = [] then none else some rule.domainText

def options : List Text :=
  (if rule.thirdParty then ["third-party".toList] else []) ++
    rule.domainText?.toList.map ("domain=".toList ++ ·)

def optionText? : Option Text :=
  if rule.options = [] then none else some (Text.join [','] rule.options)

/-- The rule without a mark before it. -/
def body : Text := rule.written ++ rule.optionText?.elim [] ('$' :: ·)

def text : Text := (if rule.hostMark then "||".toList else []) ++ rule.body

/-- The line that makes an exception of the rule. -/
def exceptionText : Text := "@@".toList ++ rule.text

theorem body_of_no_options (unlimited : rule.options = []) : rule.body = rule.written := by
  rw [body, optionText?, if_pos unlimited, Option.elim_none, List.append_nil]

theorem isPrefixOf?_written :
    ['|'].isPrefixOf? rule.written =
      if rule.pin = .start then some rule.pattern.text else none :=
  rule.pin.isPrefixOf?_write rule.pattern

theorem isSuffixOf?_written :
    ['|'].isSuffixOf? rule.written = if rule.pin = .stop then some rule.pattern.text else none :=
  rule.pin.isSuffixOf?_write rule.pattern

theorem written_ne_nil : rule.written ≠ [] := by
  obtain ⟨before, c, shape, _⟩ := rule.pin.exists_write_concat rule.pattern
  rw [written, shape]
  exact List.append_ne_nil_of_right_ne_nil _ (List.cons_ne_nil _ _)

theorem isWritten_domainText {c : Char} (member : c ∈ rule.domainText) :
    isWritten c = true ∧ c ≠ ',' := by
  obtain bar | ⟨part, among, inside⟩ := Text.mem_join member
  · cases List.mem_singleton.mp bar
    decide
  · obtain ⟨domain, _, rfl⟩ := List.mem_map.mp among
    obtain ⟨plain, noComma, _⟩ := domain.isWritten_text inside
    exact ⟨plain, noComma⟩

theorem mem_options {option : Text} (member : option ∈ rule.options) :
    option = "third-party".toList ∨
      rule.domains ≠ [] ∧ option = "domain=".toList ++ rule.domainText := by
  unfold options domainText? at member
  obtain ofParty | ofDomains := List.mem_append.mp member
  · split at ofParty
    · exact .inl (List.mem_singleton.mp ofParty)
    · cases ofParty
  · split at ofDomains
    · cases ofDomains
    · next listed => exact .inr ⟨listed, List.mem_singleton.mp ofDomains⟩

theorem isWritten_options {option : Text} (member : option ∈ rule.options) {c : Char}
    (inside : c ∈ option) : isWritten c = true ∧ c ≠ ',' := by
  have ofWord {word : Text} (plain : word.all isWritten = true) (noComma : ',' ∉ word)
      (within : c ∈ word) : isWritten c = true ∧ c ≠ ',' :=
    ⟨List.all_eq_true.mp plain c within, fun comma => noComma (comma ▸ within)⟩
  obtain rfl | ⟨_, rfl⟩ := rule.mem_options member
  · exact ofWord (by decide) (by decide) inside
  · obtain inKey | inDomains := List.mem_append.mp inside
    · exact ofWord (by decide) (by decide) inKey
    · exact rule.isWritten_domainText inDomains

theorem isWritten_written {c : Char} (member : c ∈ rule.written) :
    isWritten c = true ∧ c ≠ '$' := by
  obtain rfl | inside := rule.pin.mem_write rule.pattern member
  · decide
  · obtain rfl | literal := rule.pattern.mem_text inside
    · decide
    · exact ⟨isWritten_of_isLiteral literal, ne_of_isLiteral literal (by decide)⟩

theorem isWritten_body {c : Char} (member : c ∈ rule.body) : isWritten c = true := by
  unfold body optionText? at member
  obtain inPattern | inOptions := List.mem_append.mp member
  · exact (rule.isWritten_written inPattern).1
  · split at inOptions
    · cases inOptions
    · obtain rfl | inside := List.mem_cons.mp inOptions
      · decide
      · obtain comma | ⟨option, among, inside⟩ := Text.mem_join inside
        · cases List.mem_singleton.mp comma
          decide
        · exact (rule.isWritten_options among inside).1

theorem isWritten_text {c : Char} (member : c ∈ rule.text) : isWritten c = true := by
  unfold text at member
  obtain inMark | inBody := List.mem_append.mp member
  · split at inMark
    · exact List.all_eq_true.mp (by decide : "||".toList.all isWritten = true) c inMark
    · cases inMark
  · exact rule.isWritten_body inBody

theorem isWritten_exceptionText {c : Char} (member : c ∈ rule.exceptionText) :
    isWritten c = true := by
  obtain inMark | inRule := List.mem_append.mp member
  · exact List.all_eq_true.mp (by decide : "@@".toList.all isWritten = true) c inMark
  · exact rule.isWritten_text inRule

theorem not_contains_written {c : Char} (unwritten : isWritten c = false) :
    rule.written.contains c = false := by
  rw [List.contains_eq_mem, decide_eq_false_iff_not]
  intro member
  rw [(rule.isWritten_written member).1] at unwritten
  cases unwritten

theorem not_contains_body {c : Char} (unwritten : isWritten c = false) :
    rule.body.contains c = false := by
  rw [List.contains_eq_mem, decide_eq_false_iff_not]
  intro member
  rw [rule.isWritten_body member] at unwritten
  cases unwritten

theorem options_eq_nil_iff :
    rule.options = [] ↔ rule.thirdParty = false ∧ rule.domains = [] := by
  unfold options domainText?
  cases rule.thirdParty <;> by_cases listed : rule.domains = [] <;> simp [listed]

theorem domains_ne_nil (limited : rule.options ≠ []) (party : rule.thirdParty = false) :
    rule.domains ≠ [] := fun everywhere =>
  limited (rule.options_eq_nil_iff.mpr ⟨party, everywhere⟩)

theorem dropLead_text : rule.text.dropLead "||".toList = rule.body := by
  unfold text
  split
  · exact Text.dropLead_append ..
  · exact Text.dropLead_eq_self (rule.pin.not_hostMark_prefix rule.pattern _)

theorem exists_domainText_concat (listed : rule.domains ≠ []) :
    ∃ before c, rule.domainText = before ++ [c] ∧ c ≠ '|' := by
  have some : rule.domains.map WrittenDomain.text ≠ [] := by simpa using listed
  obtain ⟨front, whole⟩ := Text.getLast_suffix_join ['|'] some
  obtain ⟨domain, _, last⟩ := List.mem_map.mp (List.getLast_mem some)
  obtain ⟨before, c, shape, noBar⟩ := domain.exists_text_concat
  exact ⟨front ++ before, c, by rw [domainText, ← whole, ← last, shape, List.append_assoc], noBar⟩

theorem exists_optionText_concat (some : rule.options ≠ []) :
    ∃ before c, Text.join [','] rule.options = before ++ [c] ∧ c ≠ '|' := by
  obtain ⟨front, whole⟩ := Text.getLast_suffix_join [','] some
  have ends : ∃ before c, rule.options.getLast some = before ++ [c] ∧ c ≠ '|' := by
    obtain party | ⟨listed, ofDomains⟩ := rule.mem_options (List.getLast_mem some)
    · exact ⟨"third-part".toList, 'y', party, by decide⟩
    · obtain ⟨before, c, shape, noBar⟩ := rule.exists_domainText_concat listed
      exact ⟨"domain=".toList ++ before, c, by rw [ofDomains, shape, List.append_assoc], noBar⟩
  obtain ⟨before, c, shape, noBar⟩ := ends
  exact ⟨front ++ before, c, by rw [← whole, shape, List.append_assoc], noBar⟩

/-- A bar at the end of a rule is one that pins its pattern, and stands there without options. -/
theorem isSuffixOf?_body :
    ['|'].isSuffixOf? rule.body =
      if rule.options = [] then
        if rule.pin = .stop then some rule.pattern.text else none
      else none := by
  unfold body optionText?
  by_cases none : rule.options = []
  · rw [if_pos none, if_pos none, Option.elim_none, List.append_nil]
    exact rule.pin.isSuffixOf?_write rule.pattern
  · obtain ⟨before, c, shape, noBar⟩ := rule.exists_optionText_concat none
    rw [if_neg none, if_neg none, Option.elim_some, shape]
    rw [← List.cons_append, ← List.append_assoc]
    exact Text.isSuffixOf?_singleton_concat noBar _

/-- Without a mark or a bar before it, a rule starts with its first segment as a whole. -/
theorem exists_body_append (unpinned : rule.pin ≠ .start) :
    ∃ rest, rule.body = rule.pattern.first ++ rest ∧ rest.head? ≠ some '@' := by
  obtain ⟨rest, shape, opening⟩ := rule.pattern.text_eq_first_append
  have optionsHead : (rule.optionText?.elim [] ('$' :: ·)).head? ≠ some '@' := by
    cases rule.optionText? <;> simp
  unfold body written
  cases at_ : rule.pin with
  | start => exact absurd at_ unpinned
  | anywhere =>
    refine ⟨_, by rw [Pin.write, shape, List.append_assoc], ?_⟩
    rw [List.head?_append]
    rcases opening with rfl | star
    · exact optionsHead
    · simp [star]
  | stop =>
    refine ⟨_, by rw [Pin.write, shape, List.append_assoc, List.append_assoc], ?_⟩
    rw [List.head?_append]
    rcases opening with rfl | star
    · simp
    · simp [star]

/-- The text of a rule starts with a bar, or else with its first segment as a whole. -/
theorem opening_text : rule.text.head? = some '|' ∨
    ∃ rest, rule.text = rule.pattern.first ++ rest ∧ rest.head? ≠ some '@' := by
  unfold text
  cases rule.hostMark with
  | true => exact .inl rfl
  | false =>
    by_cases pinned : rule.pin = .start
    · refine .inl ?_
      rw [if_neg Bool.false_ne_true, List.nil_append, body, written, pinned]
      rfl
    · exact .inr (rule.exists_body_append pinned)

end WrittenRule

end FilterList
