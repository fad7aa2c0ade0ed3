import FilterList.Segments
import Mathlib.Data.List.Basic

/-! A wildcard pattern matches where its segments stand one after the other in a URL, with any gaps
between them. No such match is missed. More than that is matched, since segments that are not pinned are
looked for one by one: their order is of no account, and an empty one is found anywhere. -/

namespace FilterList

/-- Segments that stand in a text in order, none reaching into the next. Each has a gap before it, and
a last gap follows. -/
structure Layout where
  /-- The gaps, each with the segment behind it. -/
  spans : List (Text × Text)
  filled : spans ≠ []
  lastGap : Text

namespace Layout
variable (layout : Layout)

def segments : List Text := layout.spans.map Prod.snd

def text : Text := (layout.spans.flatMap fun (gap, segment) => gap ++ segment) ++ layout.lastGap

def firstGap : Text := (layout.spans.head layout.filled).1

theorem segments_ne_nil : layout.segments ≠ [] :=
  List.map_eq_nil_iff.not.mpr layout.filled

theorem infix_text {segment : Text} (among : segment ∈ layout.segments) :
    segment <:+: layout.text := by
  obtain ⟨⟨gap, _⟩, span, rfl⟩ := List.mem_map.mp among
  obtain ⟨before, after, whole⟩ := List.append_of_mem span
  let spread (spans : List (Text × Text)) : Text := spans.flatMap fun (gap, segment) => gap ++ segment
  exact ⟨spread before ++ gap, spread after ++ layout.lastGap, by simp [text, whole, spread]⟩

theorem head_prefix_text (unled : layout.firstGap = []) :
    layout.segments.head layout.segments_ne_nil <+: layout.text := by
  obtain ⟨⟨gap, segment⟩, rest, whole⟩ := List.exists_cons_of_ne_nil layout.filled
  have none : gap = [] := by simpa only [firstGap, whole, List.head_cons] using unled
  simp only [segments, text, whole, none, List.map_cons, List.head_cons, List.flatMap_cons,
    List.nil_append, List.append_assoc]
  exact List.prefix_append _ _

theorem getLast_suffix_text (unfollowed : layout.lastGap = []) :
    layout.segments.getLast layout.segments_ne_nil <:+ layout.text := by
  have whole := List.dropLast_concat_getLast layout.filled
  rw [text, unfollowed, List.append_nil, ← whole, List.flatMap_append, List.flatMap_singleton,
    ← List.append_assoc]
  simp only [segments, List.getLast_map]
  exact List.suffix_append _ _

theorem occurIn_text : occurIn layout.segments layout.text = true :=
  occurIn_iff.mpr fun _ => layout.infix_text

theorem occurFromStart_text (unled : layout.firstGap = []) :
    occurFromStart layout.segments layout.text = true :=
  (occurFromStart_iff layout.segments_ne_nil).mpr
    ⟨layout.head_prefix_text unled, fun _ among => layout.infix_text (List.mem_of_mem_tail among)⟩

theorem occurToEnd_text (unfollowed : layout.lastGap = []) :
    occurToEnd layout.segments layout.text = true :=
  (occurToEnd_iff layout.segments_ne_nil).mpr
    ⟨layout.getLast_suffix_text unfollowed, fun _ among =>
      layout.infix_text (List.dropLast_subset _ among)⟩

end Layout

section Pinned
variable {segments : List Text} {url : Text}

theorem occurIn_of_occurFromStart (found : occurFromStart segments url = true) :
    occurIn segments url = true := by
  cases segments with
  | nil => cases found
  | cons first rest =>
    obtain ⟨pinned, others⟩ := (occurFromStart_iff (List.cons_ne_nil _ _)).mp found
    exact occurIn_iff.mpr (List.forall_mem_cons.mpr ⟨pinned.isInfix, others⟩)

theorem occurToEnd_concat (segments : List Text) (last url : Text) :
    occurToEnd (segments ++ [last]) url = (last.isSuffixOf url && occurIn segments url) := by
  rw [occurToEnd, List.getLast?_concat, List.dropLast_concat]

theorem occurIn_of_occurToEnd (found : occurToEnd segments url = true) :
    occurIn segments url = true := by
  obtain rfl | ⟨others, last, rfl⟩ := List.eq_nil_or_concat' segments
  · cases found
  · rw [occurToEnd_concat, Bool.and_eq_true_iff, List.isSuffixOf_iff_suffix] at found
    obtain ⟨pinned, others⟩ := found
    rw [occurIn, List.all_append, Bool.and_eq_true_iff]
    refine ⟨others, ?_⟩
    simpa [Text.occurs_iff_isInfix] using pinned.isInfix

/-- It only counts which segments there are, and empty ones do not count. -/
theorem occurIn_congr {others : List Text}
    (same : ∀ segment ≠ [], segment ∈ segments ↔ segment ∈ others) :
    occurIn segments url = occurIn others url := by
  rw [Bool.eq_iff_iff, occurIn_iff, occurIn_iff]
  apply forall_congr'
  intro segment
  by_cases empty : segment = []
  · simp only [empty, List.nil_infix, implies_true]
  · rw [same segment empty]

end Pinned

/-- Segments that stand in a URL in order are found there, also pinned to its start or its end where no
gap is left. What is found pinned is found unpinned too. Segments that are not pinned may be put in any
other order, and empty ones may be put among them or taken away. -/
theorem Layout.occur_text :
    (∀ layout : Layout,
      occurIn layout.segments layout.text = true ∧
      (layout.firstGap = [] → occurFromStart layout.segments layout.text = true) ∧
      (layout.lastGap = [] → occurToEnd layout.segments layout.text = true)) ∧
    (∀ segments url,
      (occurFromStart segments url = true → occurIn segments url = true) ∧
      (occurToEnd segments url = true → occurIn segments url = true)) ∧
    ∀ loose others : List Text, (loose.filter (· ≠ [])).Perm (others.filter (· ≠ [])) →
      ∀ pinned url,
        occurIn loose url = occurIn others url ∧
        occurFromStart (pinned :: loose) url = occurFromStart (pinned :: others) url ∧
        occurToEnd (loose ++ [pinned]) url = occurToEnd (others ++ [pinned]) url := by
  refine ⟨fun layout => ?_, fun segments url => ?_, fun loose others moved pinned url => ?_⟩
  · exact ⟨layout.occurIn_text, layout.occurFromStart_text, layout.occurToEnd_text⟩
  · exact ⟨occurIn_of_occurFromStart, occurIn_of_occurToEnd⟩
  · have same : occurIn loose url = occurIn others url := by
      apply occurIn_congr
      intro segment filled
      simpa [List.mem_filter, filled] using moved.mem_iff (a := segment)
    refine ⟨same, congrArg (pinned.isPrefixOf url && ·) same, ?_⟩
    rw [occurToEnd_concat, occurToEnd_concat, same]

/-- Segments without a gap before the first and behind the last, two of them side by side and one
empty, and the ones between the ends in another order. -/
theorem Layout.occur_text_of_pixel :
    let layout : Layout :=
      ⟨[([], "//ads.".toList), ("x/".toList, "a/".toList), ([], "a".toList), ([], []),
        ("d".toList, ".gif".toList)], by simp, []⟩
    layout.text = "//ads.x/a/ad.gif".toList ∧
    occurFromStart layout.segments layout.text = true ∧
    occurToEnd layout.segments layout.text = true ∧
    occurIn layout.segments layout.text = true ∧
    occurToEnd (["a".toList, [], "//ads.".toList, [], "a/".toList] ++ [".gif".toList]) layout.text =
      true := by
  intro layout
  obtain ⟨ordered, unpinned, moved⟩ := Layout.occur_text
  obtain ⟨_, fromStart, toEnd⟩ := ordered layout
  have other := (moved ["//ads.".toList, "a/".toList, "a".toList, []]
    ["a".toList, [], "//ads.".toList, [], "a/".toList] (by decide) ".gif".toList layout.text).2.2
  exact ⟨by decide, fromStart rfl, toEnd rfl, (unpinned _ _).1 (fromStart rfl),
    other.symm.trans (toEnd rfl)⟩

end FilterList
