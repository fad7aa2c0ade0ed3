import FilterList.Proofs.ListBytes
import Mathlib.Data.List.Forall2

/-! White space around lines. A line is read, and quoted in the log, without it, so a list comes to the
same with and without it. A carriage return before a line feed is a part of the line's ending or, if
there are more of them, white space in the line. -/

namespace FilterList

namespace Text

def Pads (text padded : Text) : Prop :=
  ∃ lead tail, padded = lead ++ text ++ tail ∧ lead.all isBlank = true ∧ tail.all isBlank = true

theorem Pads.trim_eq {text padded : Text} (pads : text.Pads padded) : trim padded = trim text := by
  obtain ⟨lead, tail, rfl, blankLead, blankTail⟩ := pads
  rw [trim_append_blank _ (List.all_eq_true.mp blankTail), trim, trimStart,
    List.dropWhile_append_of_pos (List.all_eq_true.mp blankLead)]
  rfl

def withReturns (text : Text) : Text := text.flatMap fun c => if c = '\n' then ['\r', '\n'] else [c]

/-- Every part between line feeds gets a carriage return at its end, but for the last one. -/
theorem pieces_withReturns (text : Text) :
    (withReturns text).pieces '\n' = (text.pieces '\n').dropLast.map (· ++ ['\r']) ++
      [(text.pieces '\n').getLast (pieces_ne_nil '\n' text)] := by
  induction text with
  | nil => rfl
  | cons c rest ih =>
    obtain ⟨part, parts, shape⟩ := List.exists_cons_of_ne_nil (pieces_ne_nil '\n' rest)
    simp only [shape] at ih
    rw [withReturns, List.flatMap_cons]
    change pieces '\n' (_ ++ withReturns rest) = _
    by_cases ends : c = '\n'
    · subst ends
      have cut : pieces '\n' ('\n' :: rest) = [] :: part :: parts := by
        rw [pieces, if_pos rfl, shape]
      have first : pieces '\n' (['\r'] ++ '\n' :: withReturns rest) =
          ['\r'] :: pieces '\n' (withReturns rest) := pieces_append_separator ..
      simp only [cut, if_true]
      exact first.trans (congrArg (['\r'] :: ·) ih)
    · simp only [pieces_cons_of_ne ends shape, if_neg ends, List.singleton_append]
      cases parts with
      | nil => exact pieces_cons_of_ne ends ih
      | cons next parts => exact pieces_cons_of_ne ends ih

theorem trim_lines_withReturns (text : Text) :
    (lines (withReturns text)).map trim = (lines text).map trim := by
  have nonempty := pieces_ne_nil '\n' text
  have bare (line : Text) : dropTail (line ++ ['\r']) ['\r'] = line := by
    rw [dropTail, List.isSuffixOf?_eq_some_iff_append_eq.mpr rfl, Option.getD_some]
  rw [lines, lines, pieces_withReturns, List.dropLast_concat, List.getLast?_concat,
    List.getLast?_eq_some_getLast nonempty]
  simp only [List.map_append, List.map_map]
  congr 1
  apply List.map_congr_left
  intro line _
  exact (congrArg trim (bare line)).trans (trim_dropTail_return line).symm

end Text

namespace Compiler

theorem feed_congr (compiler : Compiler) {line other : Text}
    (same : Text.trim line = Text.trim other) : compiler.feed line = compiler.feed other := by
  rw [feed, feed, Line.content, Line.content, same]

theorem run_congr {lines others : List Text} (same : lines.map Text.trim = others.map Text.trim)
    (compiler : Compiler) : lines.foldl feed compiler = others.foldl feed compiler := by
  induction lines generalizing others compiler with
  | nil =>
    cases List.map_eq_nil_iff.mp same.symm
    rfl
  | cons line rest ih =>
    obtain ⟨other, later, rfl, first, second⟩ := List.map_eq_cons_iff.mp same.symm
    rw [List.foldl_cons, List.foldl_cons, feed_congr compiler first.symm]
    exact ih second.symm _

end Compiler

namespace Compilation

theorem ofLines_congr {lines others : List Text}
    (same : lines.map Text.trim = others.map Text.trim) : ofLines lines = ofLines others :=
  congrArg Compiler.finish (Compiler.run_congr same {})

/-- White space put around the lines of a list changes nothing in what the list comes to: its rules,
header and counts, and every record. Nor does a carriage return put before every line feed of a text,
whatever carriage returns stand in it already. -/
theorem ofLines_padded :
    (∀ lines padded : List Text, List.Forall₂ Text.Pads lines padded →
      ofLines padded = ofLines lines) ∧
    ∀ text, ofText (Text.withReturns text) = ofText text := by
  constructor
  · intro lines padded around
    apply ofLines_congr
    induction around with
    | nil => rfl
    | cons pads _ ih => rw [List.map_cons, List.map_cons, pads.trim_eq, ih]
  · exact fun text => ofLines_congr (Text.trim_lines_withReturns text)

theorem ofLines_padded_beyond_ascii :
    let lines := ["! Title: T".toList, "ads$domain=~".toList]
    let padded := ["\t! Title: T\u3000".toList, " ads$domain=~\u00A0\r".toList]
    let text := "! Title: T\r\r\n\n\r/ads\r".toList
    List.Forall₂ Text.Pads lines padded ∧ ofLines padded = ofLines lines ∧
    (ofLines padded).log =
      [.dropped "ads$domain=~".toList .noUsableDomain, .compiled "T".toList 2 0 1] ∧
    ofText "! Title: T\r\r\r\n\r\n\r/ads\r".toList = ofText text := by
  intro lines padded text
  have around : List.Forall₂ Text.Pads lines padded :=
    .cons ⟨"\t".toList, "\u3000".toList, by decide, by decide, by decide⟩
      (.cons ⟨" ".toList, "\u00A0\r".toList, by decide, by decide, by decide⟩ .nil)
  have same := ofLines_padded.1 lines padded around
  refine ⟨around, same, ?_, ofLines_padded.2 text⟩
  rw [same]
  decide +kernel

end Compilation

end FilterList
