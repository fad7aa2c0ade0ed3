import FilterList.Proofs.PlacedEntries

/-! A pattern is split where its stars stand and nowhere else, so its segments with stars between them
are the pattern again. Whether there are too many of them shows from one part more than there may be:
the rest of the pattern need not be split. -/

namespace FilterList

namespace Text

/-- At most `most` parts. The last of so many is all that is left, with the separators in it. -/
def piecesUpTo (separator : Char) : Nat → Text → List Text
  | 0, _ => []
  | 1, text => [text]
  | most + 2, text =>
    match cut? separator text with
    | none => [text]
    | some (before, after) => before :: piecesUpTo separator (most + 1) after

theorem piecesUpTo_of_not_mem {separator : Char} {text : Text} (free : separator ∉ text) (more : Nat) :
    piecesUpTo separator (more + 1) text = [text] := by
  cases more with
  | zero => rfl
  | succ more => rw [piecesUpTo, cut?_eq_none free]

theorem piecesUpTo_append {separator : Char} {before : Text} (free : separator ∉ before)
    (after : Text) (more : Nat) :
    piecesUpTo separator (more + 2) (before ++ separator :: after) =
      before :: piecesUpTo separator (more + 1) after := by
  rw [piecesUpTo, cut?_append free]

theorem length_piecesUpTo (separator : Char) (most : Nat) (text : Text) :
    (piecesUpTo separator most text).length = min most (text.count separator + 1) := by
  induction most generalizing text with
  | zero => simp [piecesUpTo]
  | succ more ih =>
    by_cases inside : separator ∈ text
    · cases more with
      | zero => simp [piecesUpTo]
      | succ more =>
        obtain ⟨before, after, rfl, free⟩ := List.eq_append_cons_of_mem inside
        rw [piecesUpTo_append free, List.length_cons, ih, List.count_append, List.count_cons_self,
          List.count_eq_zero.mpr free]
        omega
    · rw [piecesUpTo_of_not_mem inside, List.count_eq_zero.mpr inside, List.length_singleton]
      omega

theorem piecesUpTo_eq_pieces {separator : Char} {most : Nat} {text : Text}
    (few : text.count separator < most) : piecesUpTo separator most text = pieces separator text := by
  induction most generalizing text with
  | zero => cases few
  | succ more ih =>
    by_cases inside : separator ∈ text
    · obtain ⟨before, after, rfl, free⟩ := List.eq_append_cons_of_mem inside
      rw [List.count_append, List.count_cons_self] at few
      cases more with
      | zero => omega
      | succ more =>
        rw [piecesUpTo_append free, pieces_append_separator, pieces_of_not_mem free, ih (by omega)]
        rfl
    · rw [piecesUpTo_of_not_mem inside, pieces_of_not_mem inside]

end Text

namespace Segments

/-- A pattern split no further than it takes to see that there are too many segments. -/
def splitUpTo? (pattern : Text) (limit : Nat) : Option Segments :=
  let most := min limit maxSegments
  let parts := pattern.piecesUpTo '*' (most + 1)
  if most < parts.length then none else ofList? parts

theorem split?_eq_some_iff {pattern : Text} {limit : Nat} {segments : Segments} :
    split? pattern limit = some segments ↔
      segments.size ≤ limit ∧ (∀ segment ∈ segments.toList, '*' ∉ segment) ∧
        segments.toText = pattern := by
  constructor
  · intro split
    have parts := Rule.toList_of_split? split
    refine ⟨?_, ?_, ?_⟩
    · dsimp only [split?] at split
      split at split
      next few => rwa [size, parts]
      next => cases split
    · intro segment among
      rw [parts] at among
      exact Text.not_mem_of_mem_pieces among
    · rw [toText, parts, Text.join_pieces]
  · rintro ⟨few, free, rfl⟩
    have parts : segments.toText.pieces '*' = segments.toList :=
      Text.pieces_join segments.ne_nil free
    rw [split?, parts]
    exact (if_pos few).trans (ofList?_eq_some_iff.mpr rfl)

theorem ofList?_eq_none_iff {parts : List Text} :
    ofList? parts = none ↔ parts = [] ∨ maxSegments < parts.length := by
  unfold ofList?
  split
  next fits => simp [fits]
  next bad =>
    simp only [true_iff]
    by_contra fits
    push Not at fits
    exact bad fits

theorem exists_split?_iff {pattern : Text} {limit : Nat} :
    (∃ segments, split? pattern limit = some segments) ↔
      pattern.count '*' < min limit maxSegments := by
  have counted := Text.length_pieces '*' pattern
  rw [← Option.ne_none_iff_exists', split?]
  split
  · have nonempty := Text.pieces_ne_nil '*' pattern
    rw [ne_eq, ofList?_eq_none_iff, or_iff_right nonempty]
    omega
  · simp only [ne_eq, not_true_eq_false, false_iff]
    omega

theorem splitUpTo?_eq (pattern : Text) (limit : Nat) :
    splitUpTo? pattern limit = split? pattern limit := by
  have length := Text.length_piecesUpTo '*' (min limit maxSegments + 1) pattern
  by_cases few : pattern.count '*' < min limit maxSegments
  · have counted := Text.length_pieces '*' pattern
    have parts : pattern.piecesUpTo '*' (min limit maxSegments + 1) = pattern.pieces '*' :=
      Text.piecesUpTo_eq_pieces (by omega)
    rw [splitUpTo?, split?, if_neg (by omega), if_pos (by omega), parts]
  · have none : split? pattern limit = none := by
      apply Option.eq_none_iff_forall_ne_some.mpr
      intro segments split
      exact few (exists_split?_iff.mp ⟨segments, split⟩)
    rw [none, splitUpTo?, if_pos (by omega)]

theorem size_of_split? {pattern : Text} {limit : Nat} {segments : Segments}
    (split : split? pattern limit = some segments) : segments.size = pattern.count '*' + 1 := by
  rw [size, Rule.toList_of_split? split, Text.length_pieces]

/-- A pattern has segments where it has fewer stars than there may be segments. There is one segment
more than there are stars, none has a star in it, and with stars between them they are the pattern.
Any segments without stars, and no more of them than there may be, come back from their pattern. -/
theorem split?_toText (limit : Nat) :
    (∀ pattern : Text,
      ((∃ segments, split? pattern limit = some segments) ↔ pattern.count '*' < min limit 5) ∧
      (∀ segments, split? pattern limit = some segments →
        segments.size = pattern.count '*' + 1 ∧ (∀ segment ∈ segments.toList, '*' ∉ segment) ∧
          segments.toText = pattern) ∧
      splitUpTo? pattern limit = split? pattern limit) ∧
    ∀ segments : Segments, (∀ segment ∈ segments.toList, '*' ∉ segment) →
      segments.size ≤ limit → split? segments.toText limit = some segments := by
  refine ⟨fun pattern => ⟨exists_split?_iff, ?_, splitUpTo?_eq pattern limit⟩, ?_⟩
  · intro segments split
    exact ⟨size_of_split? split, (split?_eq_some_iff.mp split).2⟩
  · intro segments free few
    exact split?_eq_some_iff.mpr ⟨few, free, rfl⟩

theorem split?_toText_of_pixels :
    let segments : Segments := ⟨[[], "ü/".toList, [], ".gif".toList, []], by decide, by decide⟩
    split? "*ü/**.gif*".toList 9 = some segments ∧ segments.size = 5 ∧
      splitUpTo? "*ü/**.gif*".toList 9 = some segments ∧
      ¬ ∃ others, split? "*ü/**.gif**".toList 9 = some others := by
  intro segments
  obtain ⟨found, back⟩ := split?_toText 9
  have split : split? "*ü/**.gif*".toList 9 = some segments :=
    back segments (by decide) (by decide)
  obtain ⟨_, parts, bounded⟩ := found "*ü/**.gif*".toList
  refine ⟨split, (parts segments split).1, bounded.trans split, ?_⟩
  rw [(found "*ü/**.gif**".toList).1]
  decide

end Segments

end FilterList
