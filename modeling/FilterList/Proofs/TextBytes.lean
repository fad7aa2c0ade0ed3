import FilterList.Proofs.TextSlices
import FilterList.Proofs.Utf8Decoding
import FilterList.Proofs.TextCutting
import FilterList.Text.Caseless

/-! A text by its bytes. The byte at a position shows whether the position lies between two
characters, texts with the same bytes are the same, and letters change their case byte by byte. -/

namespace FilterList

namespace Utf8

/-- The byte with an ASCII capital made small. -/
def lowerByte (b : UInt8) : UInt8 := if 0x41 ≤ b && b ≤ 0x5A then b + 0x20 else b

/-- Whether a position is at the end of the bytes or before a byte that starts a character. -/
def isBoundary (bytes : Bytes) (position : Nat) : Bool :=
  match bytes[position]? with
  | none => position == bytes.length
  | some b => !isTail b

theorem toUtf8_cons (c : Char) (rest : Text) :
    Text.toUtf8 (c :: rest) = String.utf8EncodeChar c ++ rest.toUtf8 := List.flatMap_cons

theorem toUtf8_eq_nil_iff {text : Text} : text.toUtf8 = [] ↔ text = [] := by
  rw [← List.length_eq_zero_iff, Text.length_toUtf8]
  constructor
  · intro none
    by_contra filled
    exact absurd none (Nat.ne_of_gt (Text.utf8Length_pos filled))
  · rintro rfl
    rfl

theorem encodeChar_of_ascii {c : Char} (ascii : c.toNat < 0x80) :
    String.utf8EncodeChar c = [UInt8.ofNat c.toNat] := by
  unfold String.utf8EncodeChar
  rw [Char.toNat_val]
  exact if_pos (by omega)

/-- Only the first byte of a character does not go on with one. -/
theorem exists_encodeChar_eq (c : Char) :
    ∃ first tails, String.utf8EncodeChar c = first :: tails ∧ isTail first = false ∧
      (∀ b ∈ tails, isTail b = true) ∧ (0x80 ≤ c.toNat → 0xC0 ≤ first.toNat) := by
  have bound : c.toNat < 0x110000 := by
    have valid : c.toNat < 0xD800 ∨ 0xDFFF < c.toNat ∧ c.toNat < 0x110000 := c.valid
    omega
  unfold String.utf8EncodeChar
  rw [Char.toNat_val]
  generalize c.toNat = n at bound
  have starts {m : Nat} (small : m < 256) (lead : m < 0x80 ∨ 0xBF < m) :
      isTail (UInt8.ofNat m) = false := by
    rw [← Bool.not_eq_true, isTail_iff, toNat_ofNat small]
    omega
  have tail (m : Nat) : ∀ b ∈ [UInt8.ofNat (m % 64 + 0x80)], isTail b = true :=
    List.forall_mem_singleton.mpr (isTail_sixBits m)
  have lead {m : Nat} (small : m < 256) (high : 0xC0 ≤ m) : 0xC0 ≤ (UInt8.ofNat m).toNat := by
    rw [toNat_ofNat small]
    exact high
  dsimp only
  split
  · exact ⟨_, _, rfl, starts (by omega) (by omega), nofun, by omega⟩
  split
  · exact ⟨_, _, rfl, starts (by omega) (by omega), tail n,
      fun _ => lead (by omega) (by omega)⟩
  split
  · exact ⟨_, _, rfl, starts (by omega) (by omega),
      List.forall_mem_cons.mpr ⟨isTail_sixBits _, tail n⟩,
      fun _ => lead (by omega) (by omega)⟩
  · exact ⟨_, _, rfl, starts (by omega) (by omega),
      List.forall_mem_cons.mpr ⟨isTail_sixBits _,
        List.forall_mem_cons.mpr ⟨isTail_sixBits _, tail n⟩⟩,
      fun _ => lead (by omega) (by omega)⟩

theorem high_of_mem_encodeChar {c : Char} (beyond : 0x80 ≤ c.toNat) {b : UInt8}
    (member : b ∈ String.utf8EncodeChar c) : 0x80 ≤ b.toNat := by
  obtain ⟨first, tails, bytes, _, goOn, high⟩ := exists_encodeChar_eq c
  rw [bytes] at member
  obtain rfl | among := List.mem_cons.mp member
  · exact Nat.le_trans (by decide) (high beyond)
  · exact (isTail_iff.mp (goOn b among)).1

/-- The byte of an ASCII character stands in no other character. -/
theorem eq_of_mem_encodeChar {c d : Char} (ascii : d.toNat < 0x80)
    (member : UInt8.ofNat d.toNat ∈ String.utf8EncodeChar c) : c = d := by
  have byte : (UInt8.ofNat d.toNat).toNat = d.toNat := toNat_ofNat (by omega)
  by_cases low : c.toNat < 0x80
  · rw [encodeChar_of_ascii low] at member
    have same := congrArg UInt8.toNat (List.mem_singleton.mp member)
    rw [byte, toNat_ofNat (by omega)] at same
    rw [← Char.ofNat_toNat c, ← same, Char.ofNat_toNat]
  · have high := high_of_mem_encodeChar (Nat.le_of_not_lt low) member
    omega

theorem isBoundary_cons (c : Char) (rest : Text) (position : Nat) :
    isBoundary (Text.toUtf8 (c :: rest)) position = true ↔
      position = 0 ∨ ∃ further, position = c.utf8Size + further ∧
        isBoundary rest.toUtf8 further = true := by
  obtain ⟨first, tails, bytes, starts, goOn, _⟩ := exists_encodeChar_eq c
  have size : c.utf8Size = tails.length + 1 := by
    rw [← String.length_utf8EncodeChar, bytes, List.length_cons]
  rw [toUtf8_cons, bytes, List.cons_append, size]
  unfold isBoundary
  cases position with
  | zero => simp [starts]
  | succ position =>
    rw [List.getElem?_cons_succ, List.length_cons, List.length_append]
    by_cases inside : position < tails.length
    · -- Inside a character the next byte goes on with it.
      rw [List.getElem?_append_left inside, List.getElem?_eq_getElem inside]
      have follows := goOn _ (List.getElem_mem inside)
      constructor
      · intro boundary
        simp [follows] at boundary
      · rintro (start | ⟨further, same, _⟩) <;> omega
    · obtain ⟨further, rfl⟩ := Nat.exists_eq_add_of_le (Nat.le_of_not_lt inside)
      rw [List.getElem?_append_right (Nat.le_add_right _ _), Nat.add_sub_cancel_left]
      have counted : (tails.length + further + 1 == tails.length + rest.toUtf8.length + 1) =
          (further == rest.toUtf8.length) := by
        rw [Bool.eq_iff_iff, beq_iff_eq, beq_iff_eq]
        omega
      rw [counted]
      constructor
      · exact fun boundary => .inr ⟨further, by omega, boundary⟩
      · rintro (start | ⟨other, same, boundary⟩)
        · omega
        · obtain rfl : further = other := by omega
          exact boundary

/-- The bytes show where characters meet: there and nowhere else a text can be cut. -/
theorem isBoundary_toUtf8_iff {text : Text} {position : Nat} :
    isBoundary text.toUtf8 position = true ↔
      ∃ before after, text = before ++ after ∧ position = before.utf8Length := by
  induction text generalizing position with
  | nil =>
    constructor
    · intro boundary
      have atEnd : position = 0 := by simpa [isBoundary, Text.toUtf8] using boundary
      exact ⟨[], [], rfl, atEnd⟩
    · rintro ⟨before, after, empty, rfl⟩
      rw [(List.append_eq_nil_iff.mp empty.symm).1]
      rfl
  | cons c rest ih =>
    rw [isBoundary_cons]
    constructor
    · rintro (rfl | ⟨further, rfl, boundary⟩)
      · exact ⟨[], c :: rest, rfl, rfl⟩
      · obtain ⟨before, after, rfl, rfl⟩ := ih.mp boundary
        exact ⟨c :: before, after, rfl, rfl⟩
    · rintro ⟨before, after, joined, rfl⟩
      cases before with
      | nil => exact .inl rfl
      | cons d before =>
        obtain ⟨rfl, rfl⟩ := List.cons.inj joined
        exact .inr ⟨Text.utf8Length before, rfl, ih.mpr ⟨before, after, rfl, rfl⟩⟩

theorem isBoundary_toUtf8 (text : Text) (position : Nat) :
    isBoundary text.toUtf8 position = (text.cutAt? position).isSome := by
  rw [Bool.eq_iff_iff, isBoundary_toUtf8_iff, Option.isSome_iff_exists]
  constructor
  · rintro ⟨before, after, rfl, rfl⟩
    exact ⟨_, Text.cutAt?_append before after⟩
  · intro ⟨⟨before, after⟩, cut⟩
    exact ⟨before, after, Text.eq_append_of_cutAt? cut⟩

theorem toUtf8_injective {left right : Text} (same : left.toUtf8 = right.toUtf8) : left = right := by
  have decoded := congrArg decode same
  rw [decode_toUtf8, decode_toUtf8] at decoded
  exact List.map_inj_right (fun _ _ => Option.some.inj) |>.mp decoded

theorem toUtf8_concat (text : Text) (c : Char) :
    Text.toUtf8 (text ++ [c]) = text.toUtf8 ++ String.utf8EncodeChar c := by
  rw [Text.toUtf8_append]
  exact congrArg _ (List.append_nil _)

theorem getLast?_toUtf8_eq_dot_iff {text : Text} :
    text.toUtf8.getLast? = some 0x2E ↔ text.getLast? = some '.' := by
  cases text using List.reverseRecOn with
  | nil => exact ⟨nofun, nofun⟩
  | append_singleton front c =>
    obtain ⟨first, tails, bytes, _⟩ := exists_encodeChar_eq c
    have filled : String.utf8EncodeChar c ≠ [] := by simp [bytes]
    rw [toUtf8_concat, List.getLast?_concat, List.getLast?_append_of_ne_nil _ filled]
    constructor
    · intro dot
      exact congrArg some (eq_of_mem_encodeChar (d := '.') (by decide) (List.mem_of_getLast? dot))
    · intro dot
      cases dot
      rfl

/-- A leading dot is dropped from the bytes as it is from the text. -/
theorem dropLead_dot_toUtf8 (text : Text) :
    ([0x2E].isPrefixOf? text.toUtf8).getD text.toUtf8 = (text.dropLead ['.']).toUtf8 := by
  cases text with
  | nil => rfl
  | cons c rest =>
    by_cases dot : c = '.'
    · subst dot
      have cut : [0x2E].isPrefixOf? (Text.toUtf8 ('.' :: rest)) = some (Text.toUtf8 rest) :=
        List.isPrefixOf?_eq_some_iff_append_eq.mpr rfl
      rw [cut, Option.getD_some]
      exact congrArg Text.toUtf8 (Text.dropLead_append ['.'] rest).symm
    · obtain ⟨first, tails, bytes, _⟩ := exists_encodeChar_eq c
      have other : first ≠ 0x2E := by
        rintro rfl
        have member : UInt8.ofNat '.'.toNat ∈ String.utf8EncodeChar c := by
          rw [bytes]
          exact List.mem_cons_self
        exact dot (eq_of_mem_encodeChar (by decide) member)
      have uncut : [0x2E].isPrefixOf? (Text.toUtf8 (c :: rest)) = none := by
        simp [toUtf8_cons, bytes, List.isPrefixOf?, other.symm]
      rw [Text.dropLead_singleton_cons dot, uncut, Option.getD_none]

theorem lowerByte_of_high {b : UInt8} (high : 0x80 ≤ b.toNat) : lowerByte b = b := by
  have noCapital : ¬ (0x41 ≤ b && b ≤ 0x5A) = true := by
    simp only [UInt8.le_iff_toNat_le, UInt8.reduceToNat, Bool.and_eq_true, decide_eq_true_eq]
    omega
  exact if_neg noCapital

theorem map_lowerByte_encodeChar (c : Char) :
    (String.utf8EncodeChar c).map lowerByte = String.utf8EncodeChar c.toLower := by
  by_cases ascii : c.toNat < 0x80
  · have table : ∀ n < 0x80, (String.utf8EncodeChar (Char.ofNat n)).map lowerByte =
        String.utf8EncodeChar (Char.ofNat n).toLower := by decide
    rw [← Char.ofNat_toNat c]
    exact table c.toNat ascii
  · have beyond : 0x80 ≤ c.toNat := Nat.le_of_not_lt ascii
    have noCapital : ¬ (c.val ≥ 'A'.val ∧ c.val ≤ 'Z'.val) := by
      intro capital
      have small : c.toNat ≤ 90 := capital.2
      omega
    have same : c.toLower = c := dif_neg noCapital
    have kept : ∀ b ∈ String.utf8EncodeChar c, lowerByte b = id b := fun _ among =>
      lowerByte_of_high (high_of_mem_encodeChar beyond among)
    rw [same, List.map_congr_left kept, List.map_id]

theorem map_lowerByte_toUtf8 (text : Text) : text.toUtf8.map lowerByte = (Text.lower text).toUtf8 := by
  induction text with
  | nil => rfl
  | cons c rest ih =>
    rw [toUtf8_cons, List.map_append, map_lowerByte_encodeChar, ih]
    exact (toUtf8_cons c.toLower (Text.lower rest)).symm

/-- To compare texts without regard to the case of ASCII letters is to compare their bytes so. -/
theorem caselessEq_iff_bytes {left right : Text} :
    Text.caselessEq left right = true ↔ left.toUtf8.map lowerByte = right.toUtf8.map lowerByte := by
  rw [Text.caselessEq_iff, map_lowerByte_toUtf8, map_lowerByte_toUtf8]
  exact ⟨congrArg _, toUtf8_injective⟩

end Utf8

end FilterList
