import FilterList.Text.Basic

/-!
Comparison that takes ASCII letters without regard to case and everything else exactly.
-/

namespace FilterList.Text

/-- The text with its ASCII capitals made small. -/
def lower (text : Text) : Text := text.map Char.toLower

def caselessEq (left right : Text) : Bool := lower left == lower right

theorem caselessEq_iff {left right : Text} :
    caselessEq left right = true ↔ lower left = lower right := by
  simp [caselessEq]

end FilterList.Text
