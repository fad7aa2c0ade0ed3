import FilterList.Proofs.PatternReading
import FilterList.Proofs.RegexMatching

/-! A pattern matches the URLs that its source spans from end to end, and none where the source
cannot be read by itself, but for sources with a parenthesis too many and comments at their end. This
holds for every library of regular expressions that does as documented. -/

namespace FilterList

namespace RegexLibrary
variable {library : RegexLibrary} {manual : Manual} (meets : library.Meets manual)

theorem Pattern.isMatch_of_invalid {pattern : library.Pattern} (invalid : pattern.isValid = false)
    (url : Text) : pattern.isMatch url = false := by
  unfold isValid fault? at invalid
  unfold isMatch
  cases read : pattern.reading with
  | ok program => rw [read] at invalid; cases invalid
  | error fault => rfl

section Sources
variable {source : Text}

theorem Pattern.isMatch_of_compiled {program : library.Program}
    (compiled : library.compile (anchored source) = .ok program) (url : Text) :
    (ofSource source : library.Pattern).isMatch url = library.search program url := by
  have reading : (ofSource source : library.Pattern).reading = .ok program := compiled
  simp only [isMatch, reading]

theorem Pattern.isValid_ofSource :
    (ofSource source : library.Pattern).isValid = (library.compile (anchored source)).isOk := by
  have reading : (ofSource source : library.Pattern).reading =
      library.compile (anchored source) := rfl
  rw [isValid, fault?, reading]
  cases library.compile (anchored source) <;> rfl

end Sources

namespace Meets
include meets

theorem wholly_iff {url : Text} {expr : manual.Expr} {i j : Nat} :
    manual.Spans url (manual.wholly expr) i j ↔
      i = 0 ∧ j = url.length ∧ manual.Spans url expr 0 url.length := by
  simp only [Manual.wholly, meets.sequence_iff, meets.single_iff, meets.textStart_iff,
    meets.textEnd_iff, meets.group_iff]
  constructor
  · rintro ⟨_, ⟨rfl, rfl⟩, _, body, rfl, rfl⟩
    exact ⟨rfl, rfl, body⟩
  · rintro ⟨rfl, rfl, body⟩
    exact ⟨0, ⟨rfl, rfl⟩, url.length, body, rfl, rfl⟩

/-- A valid pattern was compiled from what its source writes by itself. -/
theorem valid_iff {source : Text} (opened : ¬ manual.Unopened source) :
    (Pattern.ofSource source : library.Pattern).isValid = true ↔
      ∃ expr, manual.parse source = some expr ∧
        manual.parse (anchored source) = some (manual.wholly expr) ∧
        manual.Fits (manual.wholly expr) := by
  rw [Pattern.isValid_ofSource, meets.compiles_iff]
  cases own : manual.parse source with
  | none => simp [meets.parse_unwritten own opened]
  | some expr =>
    obtain whole | ⟨_, whole⟩ := meets.parse_anchored own
    · simp [whole]
    · simp [whole]

theorem match_iff {source : Text} (opened : ¬ manual.Unopened source) (url : Text) :
    (Pattern.ofSource source : library.Pattern).isMatch url = true ↔
      (Pattern.ofSource source : library.Pattern).isValid = true ∧
        ∃ expr, manual.parse source = some expr ∧ manual.Spans url expr 0 url.length := by
  by_cases valid : (Pattern.ofSource source : library.Pattern).isValid = true
  · obtain ⟨expr, own, whole, _⟩ := (meets.valid_iff opened).mp valid
    rw [Pattern.isValid_ofSource] at valid
    obtain ⟨program, compiled⟩ : ∃ program, library.compile (anchored source) = .ok program := by
      cases compiled : library.compile (anchored source) with
      | ok program => exact ⟨program, rfl⟩
      | error fault => rw [compiled] at valid; cases valid
    rw [Pattern.isMatch_of_compiled compiled, meets.finds_iff compiled whole,
      Pattern.isValid_ofSource, own]
    simp [meets.wholly_iff, valid]
  · simp [valid, Pattern.isMatch_of_invalid (Bool.not_eq_true _ ▸ valid)]

/-- Where the source has no parenthesis that closes no group, a pattern matches the URLs that its
source by itself spans, provided the pattern is valid. It is valid where the source writes an
expression that is within bounds when anchored, unless a number sign may begin a comment; and if this
makes no difference to the bounds, the source has to compile by itself and to span the URL. -/
theorem isMatch_iff_spans (source url : Text) (opened : ¬ manual.Unopened source) :
    let pattern : library.Pattern := .ofSource source
    (pattern.isMatch url = true ↔ pattern.isValid = true ∧
      ∃ expr, manual.parse source = some expr ∧ manual.Spans url expr 0 url.length) ∧
    ('#' ∉ source → (pattern.isValid = true ↔
      ∃ expr, manual.parse source = some expr ∧ manual.Fits (manual.wholly expr))) ∧
    ('#' ∉ source →
      (∀ expr, manual.parse source = some expr →
        (manual.Fits (manual.wholly expr) ↔ manual.Fits expr)) →
      (pattern.isMatch url = true ↔ (library.compile source).isOk = true ∧
        ∃ expr, manual.parse source = some expr ∧ manual.Spans url expr 0 url.length)) := by
  have valid (free : '#' ∉ source) : (Pattern.ofSource source : library.Pattern).isValid = true ↔
      ∃ expr, manual.parse source = some expr ∧ manual.Fits (manual.wholly expr) := by
    rw [meets.valid_iff opened]
    constructor
    · rintro ⟨expr, own, _, fits⟩
      exact ⟨expr, own, fits⟩
    · rintro ⟨expr, own, fits⟩
      obtain whole | ⟨comment, _⟩ := meets.parse_anchored own
      · exact ⟨expr, own, whole, fits⟩
      · exact absurd comment free
  refine ⟨meets.match_iff opened url, valid, fun free alike => ?_⟩
  rw [meets.match_iff opened url, valid free, meets.compiles_iff]
  refine and_congr_left fun _ => exists_congr fun expr => and_congr_right fun own => ?_
  exact alike expr own

end Meets

end RegexLibrary

namespace Regex

theorem spans_textStart_iff {text : Text} {i j : Nat} :
    Spans text (.assertion .textStart) i j ↔ i = 0 ∧ j = 0 := by
  constructor
  · intro spans
    cases spans with
    | assertion bound holds =>
      have start : i = 0 := by
        by_contra later
        have inside : i - 1 < text.length := by omega
        simp [Assertion.holds, later, List.getElem?_eq_getElem inside] at holds
      exact ⟨start, start⟩
  · rintro ⟨rfl, rfl⟩
    exact .assertion (Nat.zero_le _) rfl

theorem spans_textEnd_iff {text : Text} {i j : Nat} :
    Spans text (.assertion .textEnd) i j ↔ i = text.length ∧ j = text.length := by
  constructor
  · intro spans
    cases spans with
    | assertion bound holds =>
      have stop : text.length ≤ i := by simpa [Assertion.holds] using holds
      have same : i = text.length := Nat.le_antisymm bound stop
      exact ⟨same, same⟩
  · rintro ⟨rfl, rfl⟩
    exact .assertion (Nat.le_refl _) (by simp [Assertion.holds])

theorem spans_sequence_iff {text : Text} {first next : Expr} {rest : List Expr} {i k : Nat} :
    Spans text (.sequence (first :: next :: rest)) i k ↔
      ∃ j, Spans text first i j ∧ Spans text (.sequence (next :: rest)) j k := by
  constructor
  · intro spans
    cases spans with
    | seq left right => exact ⟨_, left, right⟩
  · rintro ⟨j, left, right⟩
    exact .seq left right

/-- The expressions that are read here, as a manual would have them. -/
@[reducible] def manual : RegexLibrary.Manual where
  Expr := Expr
  parse text := (read text).toOption
  Unopened text := read text = .error .unopenedGroup
  Spans := Spans
  Fits _ := True
  textStart := .assertion .textStart
  textEnd := .assertion .textEnd
  group := id
  sequence := .sequence

theorem library_meets_manual : library.Meets manual where
  compiles_iff text := by
    change (read text).isOk = true ↔ ∃ expr, (read text).toOption = some expr ∧ True
    cases read text with
    | ok expr => exact ⟨fun _ => ⟨expr, rfl, trivial⟩, fun _ => rfl⟩
    | error fault => exact ⟨nofun, nofun⟩
  finds_iff := by
    intro text program expr compiled written url
    change read text = .ok program at compiled
    change (read text).toOption = some expr at written
    rw [compiled] at written
    cases written
    exact occursIn_iff
  textStart_iff := spans_textStart_iff
  textEnd_iff := spans_textEnd_iff
  group_iff := Iff.rfl
  single_iff := Iff.rfl
  sequence_iff := spans_sequence_iff
  parse_anchored := by
    intro source expr written
    change (read source).toOption = some expr at written
    change (read _).toOption = some _ ∨ '#' ∈ source ∧ (read _).toOption = none
    obtain ⟨_, own, whole | ⟨comment, fault, whole⟩⟩ | ⟨fault, own, _⟩ := read_anchored_cases source
    · rw [own] at written
      cases written
      exact .inl (by rw [whole]; rfl)
    · exact .inr ⟨comment, by rw [whole]; rfl⟩
    · rw [own] at written
      cases written
  parse_unwritten := by
    intro source unwritten opened
    change (read source).toOption = none at unwritten
    change (read _).toOption = none
    obtain ⟨expr, own, _⟩ | ⟨fault, own, rfl | ⟨other, whole⟩⟩ := read_anchored_cases source
    · rw [own] at unwritten
      cases unwritten
    · exact absurd own opened
    · rw [whole]
      rfl

end Regex

namespace UrlPattern
open Regex

/-- Two alternatives, of which the pattern matches the URLs that are spanned by one of them. -/
theorem isMatch_iff_spans_of_alternatives :
    let pattern : UrlPattern := .ofSource "a|b+".toList
    Regex.library.Meets Regex.manual ∧ ¬ Regex.manual.Unopened "a|b+".toList ∧ pattern.isValid = true ∧
      pattern.isMatch "bb".toList = true ∧
      (∃ expr, Regex.manual.parse "a|b+".toList = some expr ∧
        Regex.manual.Spans "bb".toList expr 0 2) ∧
      pattern.isMatch "abb".toList = false ∧
      ¬ ∃ expr, Regex.manual.parse "a|b+".toList = some expr ∧
        Regex.manual.Spans "abb".toList expr 0 3 := by
  have compiled : (Regex.library.compile "a|b+".toList).isOk = true := by decide +kernel
  have opened : ¬ Regex.manual.Unopened "a|b+".toList := by
    intro fault
    change Regex.library.compile "a|b+".toList = _ at fault
    rw [fault] at compiled
    cases compiled
  have found : (ofSource "a|b+".toList).isMatch "bb".toList = true := by decide +kernel
  have missed : (ofSource "a|b+".toList).isMatch "abb".toList = false := by decide +kernel
  have free : '#' ∉ "a|b+".toList := by decide
  obtain ⟨matched, _, alike⟩ :=
    library_meets_manual.isMatch_iff_spans "a|b+".toList "bb".toList opened
  obtain ⟨_, _, unalike⟩ := library_meets_manual.isMatch_iff_spans "a|b+".toList "abb".toList opened
  obtain ⟨valid, _⟩ := matched.mp found
  obtain ⟨_, spans⟩ := (alike free fun _ _ => Iff.rfl).mp found
  refine ⟨library_meets_manual, opened, valid, found, spans, missed, fun spans => ?_⟩
  have claimed := (unalike free fun _ _ => Iff.rfl).mpr ⟨compiled, spans⟩
  rw [missed] at claimed
  cases claimed

/-- A parenthesis that closes no group of the source closes the one around it, and the first
alternative is not asked to end where the text does. -/
theorem not_isMatch_iff_spans :
    ¬ ((ofSource "a)|(?:b".toList).isMatch "axyz".toList = true ↔
      ∃ expr, Regex.read "a)|(?:b".toList = .ok expr ∧
        Spans "axyz".toList expr 0 "axyz".toList.length) := by
  have invalid : Regex.read "a)|(?:b".toList = .error .unopenedGroup := rfl
  have found : (ofSource "a)|(?:b".toList).isMatch "axyz".toList = true := by decide +kernel
  intro claimed
  obtain ⟨expr, own, _⟩ := claimed.mp found
  rw [invalid] at own
  cases own

end UrlPattern

end FilterList
