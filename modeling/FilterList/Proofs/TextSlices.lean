import FilterList.Text.Utf8

/-! Positions in a text count the bytes of its encoding, so a text is cut only at a position that
lies between two of its characters. What lies between two such positions is a part of the text. -/

namespace FilterList.Text

@[simp] theorem utf8Length_append (left right : Text) :
    utf8Length (left ++ right) = utf8Length left + utf8Length right := by
  induction left with
  | nil => simp [utf8Length]
  | cons c rest ih => simp [utf8Length, ih, Nat.add_assoc]

theorem utf8Length_pos {text : Text} (filled : text ≠ []) : 0 < utf8Length text := by
  cases text with
  | nil => exact absurd rfl filled
  | cons c rest => exact Nat.add_pos_left c.utf8Size_pos _

theorem toUtf8_append (left right : Text) : toUtf8 (left ++ right) = toUtf8 left ++ toUtf8 right :=
  List.flatMap_append

theorem length_toUtf8 (text : Text) : (toUtf8 text).length = utf8Length text := by
  induction text with
  | nil => rfl
  | cons c rest ih =>
    rw [toUtf8, List.flatMap_cons, List.length_append, String.length_utf8EncodeChar, utf8Length,
      ← ih, toUtf8]

/-- The text before and after a position, unless that lies inside a character or behind the end. -/
def cutAt? : Nat → Text → Option (Text × Text)
  | 0, text => some ([], text)
  | _ + 1, [] => none
  | position + 1, c :: rest =>
    if c.utf8Size ≤ position + 1 then
      (cutAt? (position + 1 - c.utf8Size) rest).map fun (before, after) => (c :: before, after)
    else none

theorem cutAt?_append (before after : Text) :
    cutAt? before.utf8Length (before ++ after) = some (before, after) := by
  induction before with
  | nil => cases after <;> rfl
  | cons c rest ih =>
    have size := c.utf8Size_pos
    obtain ⟨position, same⟩ : ∃ position, utf8Length (c :: rest) = position + 1 :=
      Nat.exists_eq_add_one.mpr (utf8Length_pos (List.cons_ne_nil c rest))
    have remaining : position + 1 - c.utf8Size = utf8Length rest := by
      rw [← same, utf8Length, Nat.add_sub_cancel_left]
    rw [same, List.cons_append, cutAt?, remaining, ih, if_pos]
    · rfl
    · rw [← same, utf8Length]
      exact Nat.le_add_right _ _

theorem eq_append_of_cutAt? {position : Nat} {text before after : Text}
    (cut : cutAt? position text = some (before, after)) :
    text = before ++ after ∧ position = before.utf8Length := by
  induction text generalizing position before with
  | nil =>
    cases position with
    | zero =>
      cases cut
      exact ⟨rfl, rfl⟩
    | succ position => cases cut
  | cons c rest ih =>
    cases position with
    | zero =>
      cases cut
      exact ⟨rfl, rfl⟩
    | succ position =>
      rw [cutAt?] at cut
      split at cut
      next within =>
        obtain ⟨⟨front, back⟩, found, same⟩ := Option.map_eq_some_iff.mp cut
        cases same
        obtain ⟨joined, length⟩ := ih found
        refine ⟨by rw [joined, List.cons_append], ?_⟩
        rw [utf8Length]
        omega
      next => cases cut

/-- The part of a text between two positions. There is none where either position cuts a
character, where they stand in the wrong order, or beyond the end. -/
def slice? (text : Text) (start stop : Nat) : Option Text := do
  let (front, _) ← cutAt? stop text
  let (_, part) ← cutAt? start front
  return part

theorem slice?_eq_some_iff {text part : Text} {start stop : Nat} :
    slice? text start stop = some part ↔
      ∃ before after, text = before ++ part ++ after ∧ start = before.utf8Length ∧
        stop = start + part.utf8Length := by
  constructor
  · intro sliced
    obtain ⟨⟨front, after⟩, cutFront, sliced⟩ := Option.bind_eq_some_iff.mp sliced
    obtain ⟨⟨before, last⟩, cutPart, same⟩ := Option.bind_eq_some_iff.mp sliced
    cases same
    obtain ⟨whole, atStop⟩ := eq_append_of_cutAt? cutFront
    obtain ⟨joined, atStart⟩ := eq_append_of_cutAt? cutPart
    refine ⟨before, after, by rw [whole, joined], atStart, ?_⟩
    rw [atStop, joined, utf8Length_append, atStart]
  · rintro ⟨before, after, rfl, rfl, rfl⟩
    rw [slice?, ← utf8Length_append, cutAt?_append]
    change (cutAt? before.utf8Length (before ++ part)).bind _ = _
    rw [cutAt?_append]
    rfl

/-- The bytes between the positions are those of the part. -/
theorem toUtf8_of_slice? {text part : Text} {start stop : Nat}
    (sliced : slice? text start stop = some part) :
    (text.toUtf8.take stop).drop start = part.toUtf8 := by
  obtain ⟨before, after, rfl, rfl, rfl⟩ := slice?_eq_some_iff.mp sliced
  rw [← utf8Length_append, ← length_toUtf8, ← length_toUtf8, toUtf8_append _ after,
    List.take_left, toUtf8_append, List.drop_left]

end FilterList.Text
