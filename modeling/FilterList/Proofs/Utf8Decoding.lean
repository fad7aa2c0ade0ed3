import FilterList.Text.Utf8

/-! Decoding gives back the characters that were encoded, and a byte below 0x80 stands for itself in
whatever bytes it stands. So what is broken before such a byte stays broken before it, even where the
byte cuts a character short. Bytes with no broken part are the encoding of what is read from them. -/

namespace FilterList.Utf8

theorem isTail_iff {b : UInt8} : isTail b = true ↔ 0x80 ≤ b.toNat ∧ b.toNat ≤ 0xBF := by
  simp [isTail, UInt8.le_iff_toNat_le]

/-- What may follow a first byte, for those that narrow it and for all others. -/
theorem isSecond_iff {first second : UInt8} :
    isSecond first second = true ↔ 0x80 ≤ second.toNat ∧ second.toNat ≤ 0xBF ∧
      (first.toNat = 0xE0 → 0xA0 ≤ second.toNat) ∧ (first.toNat = 0xED → second.toNat ≤ 0x9F) ∧
      (first.toNat = 0xF0 → 0x90 ≤ second.toNat) ∧ (first.toNat = 0xF4 → second.toNat ≤ 0x8F) := by
  unfold isSecond isTail
  simp only [beq_iff_eq, ← UInt8.toNat_inj, UInt8.le_iff_toNat_le, UInt8.reduceToNat]
  repeat' split
  all_goals
    simp only [Bool.and_eq_true, decide_eq_true_eq]
    omega

section Ascii
variable {b : UInt8} (ascii : b < 0x80)
include ascii

theorem not_isTail_of_ascii : isTail b = false := by
  have low : b.toNat < 0x80 := ascii
  rw [← Bool.not_eq_true, isTail_iff]
  omega

theorem not_isSecond_of_ascii (first : UInt8) : isSecond first b = false := by
  have low : b.toNat < 0x80 := ascii
  rw [← Bool.not_eq_true, isSecond_iff]
  omega

theorem decode_ascii (rest : Bytes) :
    decode (b :: rest) = some (Char.ofNat b.toNat) :: decode rest := by
  rw [decode.eq_def]
  exact if_pos ascii

/-- A character that the byte cuts short is broken as it is at the end of the bytes. -/
theorem decode_append_ascii (before after : Bytes) :
    decode (before ++ b :: after) =
      decode before ++ some (Char.ofNat b.toNat) :: decode after := by
  have start := decode_ascii ascii after
  have noTail := not_isTail_of_ascii ascii
  have noSecond := not_isSecond_of_ascii ascii
  fun_induction decode before with
  | case1 => exact start
  | _ =>
    simp only [List.cons_append, List.nil_append] at *
    rw [decode.eq_def]
    simp only [*, if_true, if_false, Bool.false_eq_true]

end Ascii

section Characters
variable {first second third fourth : UInt8} (rest : Bytes)

theorem decode_two (low : 0xC2 ≤ first.toNat) (high : first.toNat ≤ 0xDF)
    (tail : isTail second = true) :
    decode (first :: second :: rest) =
      some (assemble (first.toNat - 0xC0) [second]) :: decode rest := by
  rw [decode.eq_def]
  simp only [UInt8.lt_iff_toNat_lt, UInt8.le_iff_toNat_le, UInt8.reduceToNat, Bool.and_eq_true,
    decide_eq_true_eq]
  rw [if_neg (by omega), if_pos ⟨low, high⟩, if_pos tail]

theorem decode_three (low : 0xE0 ≤ first.toNat) (high : first.toNat ≤ 0xEF)
    (follows : isSecond first second = true) (tail : isTail third = true) :
    decode (first :: second :: third :: rest) =
      some (assemble (first.toNat - 0xE0) [second, third]) :: decode rest := by
  rw [decode.eq_def]
  simp only [UInt8.lt_iff_toNat_lt, UInt8.le_iff_toNat_le, UInt8.reduceToNat, Bool.and_eq_true,
    decide_eq_true_eq]
  rw [if_neg (by omega), if_neg (by omega), if_pos ⟨low, high⟩, if_pos follows, if_pos tail]

theorem decode_four (low : 0xF0 ≤ first.toNat) (high : first.toNat ≤ 0xF4)
    (follows : isSecond first second = true) (tail : isTail third = true)
    (last : isTail fourth = true) :
    decode (first :: second :: third :: fourth :: rest) =
      some (assemble (first.toNat - 0xF0) [second, third, fourth]) :: decode rest := by
  rw [decode.eq_def]
  simp only [UInt8.lt_iff_toNat_lt, UInt8.le_iff_toNat_le, UInt8.reduceToNat, Bool.and_eq_true,
    decide_eq_true_eq]
  rw [if_neg (by omega), if_neg (by omega), if_neg (by omega), if_pos ⟨low, high⟩,
    if_pos follows, if_pos tail, if_pos last]

end Characters

theorem toNat_ofNat {n : Nat} (small : n < 256) : (UInt8.ofNat n).toNat = n := by
  rw [UInt8.toNat_ofNat']
  exact Nat.mod_eq_of_lt small

/-- The byte that goes on with a character by six bits of its code point. -/
theorem isTail_sixBits (n : Nat) : isTail (UInt8.ofNat (n % 64 + 0x80)) = true := by
  rw [isTail_iff, toNat_ofNat (by omega)]
  omega

private theorem toNat_sixBits (n : Nat) : (UInt8.ofNat (n % 64 + 0x80)).toNat - 0x80 = n % 64 := by
  rw [toNat_ofNat (by omega), Nat.add_sub_cancel]

/-- A character is read back from its bytes, whatever bytes come after. -/
theorem decode_encodeChar (c : Char) (rest : Bytes) :
    decode (String.utf8EncodeChar c ++ rest) = some c :: decode rest := by
  have valid : c.toNat < 0xD800 ∨ 0xDFFF < c.toNat ∧ c.toNat < 0x110000 := c.valid
  have back := Char.ofNat_toNat c
  unfold String.utf8EncodeChar
  rw [Char.toNat_val]
  generalize c.toNat = n at valid back
  dsimp only
  split
  · next one =>
    have ascii : UInt8.ofNat n < 0x80 := by
      rw [UInt8.lt_iff_toNat_lt, toNat_ofNat (by omega)]
      exact Nat.lt_succ_of_le one
    rw [List.singleton_append, decode_ascii ascii, toNat_ofNat (by omega), back]
  split
  · next two =>
    have lead := toNat_ofNat (n := n / 64 % 32 + 0xC0) (by omega)
    have whole : 64 * (n / 64 % 32) + n % 64 = n := by omega
    rw [List.cons_append, List.singleton_append,
      decode_two rest (by omega) (by omega) (isTail_sixBits n)]
    simp only [assemble, List.foldl_cons, List.foldl_nil, lead, Nat.add_sub_cancel, toNat_sixBits,
      whole, back]
  split
  · next three =>
    have lead := toNat_ofNat (n := n / 4096 % 16 + 0xE0) (by omega)
    have second := toNat_ofNat (n := n / 64 % 64 + 0x80) (by omega)
    have whole : 64 * (64 * (n / 4096 % 16) + n / 64 % 64) + n % 64 = n := by omega
    have follows : isSecond (UInt8.ofNat (n / 4096 % 16 + 0xE0))
        (UInt8.ofNat (n / 64 % 64 + 0x80)) = true := by
      rw [isSecond_iff, lead, second]
      omega
    rw [List.cons_append, List.cons_append, List.singleton_append,
      decode_three rest (by omega) (by omega) follows (isTail_sixBits n)]
    simp only [assemble, List.foldl_cons, List.foldl_nil, lead, Nat.add_sub_cancel, toNat_sixBits,
      whole, back]
  · next four =>
    have lead := toNat_ofNat (n := n / 262144 % 8 + 0xF0) (by omega)
    have second := toNat_ofNat (n := n / 4096 % 64 + 0x80) (by omega)
    have whole : 64 * (64 * (64 * (n / 262144 % 8) + n / 4096 % 64) + n / 64 % 64) + n % 64 = n := by
      omega
    have follows : isSecond (UInt8.ofNat (n / 262144 % 8 + 0xF0))
        (UInt8.ofNat (n / 4096 % 64 + 0x80)) = true := by
      rw [isSecond_iff, lead, second]
      omega
    rw [List.cons_append, List.cons_append, List.cons_append, List.singleton_append,
      decode_four rest (by omega) (by omega) follows (isTail_sixBits _) (isTail_sixBits n)]
    simp only [assemble, List.foldl_cons, List.foldl_nil, lead, Nat.add_sub_cancel, toNat_sixBits,
      whole, back]

theorem decode_toUtf8 (text : Text) : decode text.toUtf8 = text.map some := by
  induction text with
  | nil => rfl
  | cons c rest ih =>
    rw [Text.toUtf8, List.flatMap_cons, decode_encodeChar]
    exact congrArg (some c :: ·) ih

private theorem toNat_char {n : Nat} (valid : n < 0xD800 ∨ 0xDFFF < n ∧ n < 0x110000) :
    (Char.ofNat n).toNat = n := by
  rw [Char.ofNat, dif_pos valid]
  rfl

private theorem ofNat_eq {n : Nat} {b : UInt8} (same : n = b.toNat) : UInt8.ofNat n = b := by
  rw [same, UInt8.ofNat_toNat]

theorem encodeChar_ascii {b : UInt8} (ascii : b < 0x80) :
    String.utf8EncodeChar (Char.ofNat b.toNat) = [b] := by
  have low : b.toNat < 0x80 := ascii
  unfold String.utf8EncodeChar
  rw [Char.toNat_val, toNat_char (.inl (by omega))]
  dsimp only
  rw [if_pos (by omega), UInt8.ofNat_toNat]

section Encoding
variable {first second third fourth : UInt8}

theorem encodeChar_two (low : 0xC2 ≤ first.toNat) (high : first.toNat ≤ 0xDF)
    (tail : isTail second = true) :
    String.utf8EncodeChar (assemble (first.toNat - 0xC0) [second]) = [first, second] := by
  rw [isTail_iff] at tail
  obtain ⟨n, code⟩ : ∃ n, n = 64 * (first.toNat - 0xC0) + (second.toNat - 0x80) := ⟨_, rfl⟩
  have character : assemble (first.toNat - 0xC0) [second] = Char.ofNat n := by
    rw [code]
    rfl
  rw [character, String.utf8EncodeChar, Char.toNat_val, toNat_char (.inl (by omega))]
  rw [if_neg (by omega), if_pos (by omega), ofNat_eq (b := first) (by omega),
    ofNat_eq (b := second) (by omega)]

theorem encodeChar_three (low : 0xE0 ≤ first.toNat) (high : first.toNat ≤ 0xEF)
    (follows : isSecond first second = true) (tail : isTail third = true) :
    String.utf8EncodeChar (assemble (first.toNat - 0xE0) [second, third]) =
      [first, second, third] := by
  rw [isTail_iff] at tail
  rw [isSecond_iff] at follows
  obtain ⟨n, code⟩ : ∃ n, n = 64 * (64 * (first.toNat - 0xE0) + (second.toNat - 0x80)) +
      (third.toNat - 0x80) := ⟨_, rfl⟩
  have character : assemble (first.toNat - 0xE0) [second, third] = Char.ofNat n := by
    rw [code]
    rfl
  rw [character, String.utf8EncodeChar, Char.toNat_val, toNat_char (by omega)]
  rw [if_neg (by omega), if_neg (by omega), if_pos (by omega), ofNat_eq (b := first) (by omega),
    ofNat_eq (b := second) (by omega), ofNat_eq (b := third) (by omega)]

theorem encodeChar_four (low : 0xF0 ≤ first.toNat) (high : first.toNat ≤ 0xF4)
    (follows : isSecond first second = true) (tail : isTail third = true)
    (last : isTail fourth = true) :
    String.utf8EncodeChar (assemble (first.toNat - 0xF0) [second, third, fourth]) =
      [first, second, third, fourth] := by
  rw [isTail_iff] at tail last
  rw [isSecond_iff] at follows
  obtain ⟨n, code⟩ : ∃ n, n = 64 * (64 * (64 * (first.toNat - 0xF0) + (second.toNat - 0x80)) +
      (third.toNat - 0x80)) + (fourth.toNat - 0x80) := ⟨_, rfl⟩
  have character : assemble (first.toNat - 0xF0) [second, third, fourth] = Char.ofNat n := by
    rw [code]
    rfl
  rw [character, String.utf8EncodeChar, Char.toNat_val, toNat_char (by omega)]
  rw [if_neg (by omega), if_neg (by omega), if_neg (by omega), ofNat_eq (b := first) (by omega),
    ofNat_eq (b := second) (by omega), ofNat_eq (b := third) (by omega),
    ofNat_eq (b := fourth) (by omega)]

end Encoding

/-- Bytes no part of which is broken are those of the characters read from them. -/
theorem eq_toUtf8_of_decode {bytes : Bytes} {text : Text} (read : decode bytes = text.map some) :
    bytes = text.toUtf8 := by
  have step {c : Char} {rest : Bytes} {text : Text} (read : some c :: decode rest = text.map some)
      (ih : ∀ {later : Text}, decode rest = later.map some → rest = later.toUtf8) :
      String.utf8EncodeChar c ++ rest = text.toUtf8 := by
    obtain ⟨d, later, rfl, same, next⟩ := List.map_eq_cons_iff.mp read.symm
    cases same
    rw [ih next.symm]
    rfl
  have broken {rest : List (Option Char)} {text : Text} : none :: rest ≠ text.map some := by
    intro read
    obtain ⟨_, _, _, same, _⟩ := List.map_eq_cons_iff.mp read.symm
    cases same
  have inRange {low high b : UInt8} (within : (decide (low ≤ b) && decide (b ≤ high)) = true) :
      low.toNat ≤ b.toNat ∧ b.toNat ≤ high.toNat := by
    simpa [UInt8.le_iff_toNat_le] using within
  fun_induction decode bytes generalizing text with
  | case1 =>
    rw [List.map_eq_nil_iff.mp read.symm]
    rfl
  | case2 first rest ascii ih =>
    rw [← step read ih, encodeChar_ascii ascii]
    rfl
  | case3 first _ within second rest tail ih =>
    obtain ⟨low, high⟩ := inRange within
    rw [← step read ih, encodeChar_two low high tail]
    rfl
  | case6 first _ _ within second follows third rest tail ih =>
    obtain ⟨low, high⟩ := inRange within
    rw [← step read ih, encodeChar_three low high follows tail]
    rfl
  | case11 first _ _ _ within second follows third tail fourth rest last ih =>
    obtain ⟨low, high⟩ := inRange within
    rw [← step read ih, encodeChar_four low high follows tail last]
    rfl
  | _ => exact absurd read broken

/-- Bytes are a text exactly where they are its encoding. -/
theorem toText?_eq_some_iff {bytes : Bytes} {text : Text} :
    toText? bytes = some text ↔ bytes = text.toUtf8 := by
  have whole (parts : List (Option Char)) (sound : parts.all Option.isSome = true) :
      parts = (parts.filterMap id).map some := by
    induction parts with
    | nil => rfl
    | cons part rest ih =>
      obtain ⟨first, later⟩ := Bool.and_eq_true_iff.mp sound
      obtain ⟨c, rfl⟩ := Option.isSome_iff_exists.mp first
      exact congrArg (some c :: ·) (ih later)
  unfold toText?
  constructor
  · intro read
    obtain ⟨sound, same⟩ := Option.ite_none_right_eq_some.mp read
    cases same
    exact eq_toUtf8_of_decode (whole _ sound)
  · rintro rfl
    rw [decode_toUtf8]
    simp

end FilterList.Utf8
