import FilterList.Proofs.CompilerRun
import FilterList.Proofs.RuleParts

/-! Carets in the lines of a list. A line without its carets is read as what is left of the line,
trimmed once more. So carets have no meaning but at the ends of a line, where they keep the white space
inside them from being trimmed. -/

namespace FilterList

namespace Line

def withoutCarets (line : Text) : Text := line.filter (· ≠ '^')

theorem content_withoutCarets (line : Text) :
    content (withoutCarets line) = Text.trim (content line) := by
  have keeps : ∀ c, Text.isBlank c = true → decide (c ≠ '^') = true := by
    intro c blank
    apply decide_eq_true
    rintro rfl
    exact absurd blank (by decide)
  have free : (Text.trim (withoutCarets line)).filter (· ≠ '^') = Text.trim (withoutCarets line) := by
    apply List.filter_eq_self.mpr
    intro c member
    exact (List.mem_filter.mp (Text.trim_subset _ member)).2
  rw [content, free]
  exact Text.trim_filter keeps line

/-- The content of a line stays the same without its carets exactly where none of its white space
needs them to stay. -/
theorem content_withoutCarets_eq_iff {line : Text} :
    content (withoutCarets line) = content line ↔ Text.SolidAtEnds (content line) := by
  rw [content_withoutCarets, Text.trim_eq_self_iff]

theorem outcome_withoutCarets {line : Text} (solid : Text.SolidAtEnds (content line)) :
    outcome (withoutCarets line) = outcome line := by
  rw [outcome, outcome, content_withoutCarets_eq_iff.mpr solid]

end Line

namespace Compilation

/-- To take the carets out of a line is to trim what is left of it once more. Where that has no white
space at its ends, a list with and without carets has the same rules and the same counts. -/
theorem ofLines_withoutCarets (lines : List Text) :
    (∀ line ∈ lines,
      Line.content (Line.withoutCarets line) = Text.trim (Line.content line) ∧
      (Line.content (Line.withoutCarets line) = Line.content line ↔
        Text.SolidAtEnds (Line.content line))) ∧
    ((∀ line ∈ lines, Text.SolidAtEnds (Line.content line)) →
      (ofLines (lines.map Line.withoutCarets)).rules = (ofLines lines).rules ∧
      (ofLines (lines.map Line.withoutCarets)).tally = (ofLines lines).tally) := by
  refine ⟨fun line _ => ⟨Line.content_withoutCarets line, Line.content_withoutCarets_eq_iff⟩, ?_⟩
  intro solid
  have same : (lines.map Line.withoutCarets).map Line.outcome = lines.map Line.outcome := by
    rw [List.map_map]
    exact List.map_congr_left fun line among => Line.outcome_withoutCarets (solid line among)
  exact ⟨rules_congr same, tally_congr same⟩

theorem ofLines_withoutCarets_inside :
    let lines := [" ^||ads.net^ x^$third-party^ ".toList, "^! Title: A^B".toList]
    (∀ line ∈ lines, Text.SolidAtEnds (Line.content line)) ∧
    (ofLines (lines.map Line.withoutCarets)).rules = (ofLines lines).rules ∧
    (ofLines (lines.map Line.withoutCarets)).tally = (ofLines lines).tally := by
  intro lines
  have solid : ∀ line ∈ lines, Text.SolidAtEnds (Line.content line) := by
    intro line among
    apply Text.trim_eq_self_iff.mp
    obtain rfl | later := List.mem_cons.mp among
    · decide
    · rw [List.mem_singleton.mp later]
      decide
  exact ⟨solid, (ofLines_withoutCarets lines).2 solid⟩

theorem not_ofLines_withoutCarets :
    ¬ ((ofLines [Line.withoutCarets "ads ^".toList]).rules = (ofLines ["ads ^".toList]).rules ∧
      (ofLines [Line.withoutCarets "ads ^".toList]).tally = (ofLines ["ads ^".toList]).tally) := by
  decide +kernel

end Compilation

end FilterList
