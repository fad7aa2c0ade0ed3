import FilterList.Proofs.HostGrammar
import FilterList.Proofs.TextBytes

/-! The host of a URL found by positions in its bytes. Everything that the scans look for is ASCII,
and no other character has such a byte in it, so they stop where the characters of the URL are cut. -/

namespace FilterList

namespace Utf8

def between (bytes : Bytes) (start stop : Nat) : Bytes := (bytes.take stop).drop start

def lastIdx? (test : UInt8 → Bool) (bytes : Bytes) : Option Nat :=
  (bytes.reverse.findIdx? test).map (bytes.length - 1 - ·)

end Utf8

namespace Url
open Utf8

def isSchemeByte (b : UInt8) : Bool :=
  (0x30 ≤ b && b ≤ 0x39) || (0x41 ≤ b && b ≤ 0x5A) || (0x61 ≤ b && b ≤ 0x7A) ||
    b == 0x2B || b == 0x2D || b == 0x2E

def endsAuthorityByte (b : UInt8) : Bool := b == 0x2F || b == 0x3F || b == 0x23

def schemeEndAt? (bytes : Bytes) : Option Nat := do
  let colon ← bytes.findIdx? (· == 0x3A)
  if colon = 0 then none
  else if !(bytes.take colon).all isSchemeByte then none
  else if colon + 2 < bytes.length && bytes[colon + 1]? == some 0x2F &&
      bytes[colon + 2]? == some 0x2F then some (colon + 3)
  else none

/-- The positions of a host that starts at a known place in an authority. -/
def takeHostAt? (bytes : Bytes) (start stop : Nat) : Option (Nat × Nat) :=
  if bytes[start]? == some 0x5B then do
    let close ← (between bytes start stop).findIdx? (· == 0x5D)
    let hostEnd := start + close + 1
    if hostEnd < stop && bytes[hostEnd]? != some 0x3A then none else some (start, hostEnd)
  else
    let hostEnd := ((between bytes start stop).findIdx? (· == 0x3A)).elim stop (start + ·)
    if hostEnd = start then none else some (start, hostEnd)

def authorityEndAt (bytes : Bytes) (start : Nat) : Nat :=
  ((bytes.drop start).findIdx? endsAuthorityByte).elim bytes.length (start + ·)

/-- Where an authority goes on after its user information. -/
def hostStartAt (bytes : Bytes) (start stop : Nat) : Nat :=
  (lastIdx? (· == 0x40) (between bytes start stop)).elim start (start + · + 1)

def hostSpanAt? (bytes : Bytes) : Option (Nat × Nat) := do
  let schemeEnd ← schemeEndAt? bytes
  let stop := authorityEndAt bytes schemeEnd
  takeHostAt? bytes (hostStartAt bytes schemeEnd stop) stop

end Url

namespace Utf8

theorem beq_eq_false_of_not_mem {d : Char} {text : Text} (free : d ∉ text) :
    ∀ c ∈ text, (c == d) = false :=
  fun _ member => beq_eq_false_iff_ne.mpr fun same => free (same ▸ member)

/-- A test of bytes finds the characters of another test: each of these is one byte that passes, and
no byte of any other character does. -/
structure Finds (byte : UInt8 → Bool) (char : Char → Bool) : Prop where
  picked : ∀ c, char c = true → ∃ b, String.utf8EncodeChar c = [b] ∧ byte b = true
  other : ∀ c, char c = false → ∀ b ∈ String.utf8EncodeChar c, byte b = false

theorem finds_char {d : Char} (ascii : d.toNat < 0x80) :
    Finds (· == UInt8.ofNat d.toNat) (· == d) where
  picked c same := ⟨_, by rw [eq_of_beq same, encodeChar_of_ascii ascii], beq_self_eq_true _⟩
  other c differ b inside := by
    rw [beq_eq_false_iff_ne] at differ ⊢
    rintro rfl
    exact differ (eq_of_mem_encodeChar ascii inside)

theorem Finds.or {byte byte' : UInt8 → Bool} {char char' : Char → Bool} (left : Finds byte char)
    (right : Finds byte' char') :
    Finds (fun b => byte b || byte' b) (fun c => char c || char' c) where
  picked c either := by
    obtain first | second := Bool.or_eq_true_iff.mp either
    · obtain ⟨b, bytes, passes⟩ := left.picked c first
      exact ⟨b, bytes, by rw [passes, Bool.true_or]⟩
    · obtain ⟨b, bytes, passes⟩ := right.picked c second
      exact ⟨b, bytes, by rw [passes, Bool.or_true]⟩
  other c neither b inside := by
    obtain ⟨first, second⟩ := Bool.or_eq_false_iff.mp neither
    rw [left.other c first b inside, right.other c second b inside, Bool.or_false]

section Scans
variable {byte : UInt8 → Bool} {char : Char → Bool} (finds : Finds byte char)
include finds

theorem Finds.none_of_free {text : Text} (free : ∀ c ∈ text, char c = false) :
    ∀ b ∈ text.toUtf8, byte b = false := by
  intro b inside
  obtain ⟨c, member, inside⟩ := List.mem_flatMap.mp inside
  exact finds.other c (free c member) b inside

theorem Finds.findIdx?_eq_none {text : Text} (free : ∀ c ∈ text, char c = false) :
    text.toUtf8.findIdx? byte = none :=
  List.findIdx?_eq_none_iff.mpr (finds.none_of_free free)

theorem Finds.findIdx?_append {before : Text} (free : ∀ c ∈ before, char c = false) {c : Char}
    (found : char c = true) (after : Text) :
    (Text.toUtf8 (before ++ c :: after)).findIdx? byte = some before.utf8Length := by
  obtain ⟨b, bytes, passes⟩ := finds.picked c found
  rw [Text.toUtf8_append, toUtf8_cons, bytes, List.findIdx?_append, finds.findIdx?_eq_none free,
    Text.length_toUtf8]
  simp [List.findIdx?_cons, passes]

/-- A scan that goes on to the end where it finds nothing stops where the run of other characters
does. -/
theorem Finds.elim_findIdx? {run tail : Text} (free : ∀ c ∈ run, char c = false)
    (opens : ∀ c ∈ tail.head?, char c = true) (start : Nat) :
    ((Text.toUtf8 (run ++ tail)).findIdx? byte).elim (start + Text.utf8Length (run ++ tail))
      (start + ·) = start + run.utf8Length := by
  cases tail with
  | nil => rw [List.append_nil, finds.findIdx?_eq_none free, Option.elim_none]
  | cons c after => rw [finds.findIdx?_append free (opens c rfl), Option.elim_some]

end Scans

theorem between_toUtf8 (before part after : Text) :
    between (Text.toUtf8 (before ++ part ++ after)) before.utf8Length
      (before.utf8Length + part.utf8Length) = part.toUtf8 := by
  rw [between, ← Text.utf8Length_append, ← Text.length_toUtf8, ← Text.length_toUtf8,
    Text.toUtf8_append _ after, List.take_left, Text.toUtf8_append, List.drop_left]

/-- The byte after some text is an ASCII one just where that character follows. -/
theorem getElem?_toUtf8_iff {d : Char} (ascii : d.toNat < 0x80) (before after : Text) :
    (Text.toUtf8 (before ++ after))[before.utf8Length]? = some (UInt8.ofNat d.toNat) ↔
      after.head? = some d := by
  rw [Text.toUtf8_append, ← Text.length_toUtf8, List.getElem?_append_right (Nat.le_refl _),
    Nat.sub_self]
  cases after with
  | nil => exact ⟨nofun, nofun⟩
  | cons c rest =>
    obtain ⟨first, tails, bytes, _⟩ := exists_encodeChar_eq c
    rw [toUtf8_cons, bytes]
    simp only [List.cons_append, List.getElem?_cons_zero, Option.some.injEq, List.head?_cons]
    constructor
    · intro same
      exact eq_of_mem_encodeChar ascii (by rw [bytes, ← same]; exact List.mem_cons_self)
    · rintro rfl
      rw [encodeChar_of_ascii ascii] at bytes
      exact (List.cons.inj bytes).1.symm

/-- Behind the last of some characters, none of which is further on. -/
theorem lastIdx?_toUtf8 {d : Char} (ascii : d.toNat < 0x80) {lead last : Text} (free : d ∉ last)
    (ends : ∀ c ∈ lead.getLast?, c = d) (start : Nat) :
    (lastIdx? (· == UInt8.ofNat d.toNat) (Text.toUtf8 (lead ++ last))).elim start (start + · + 1) =
      start + lead.utf8Length := by
  have finds := finds_char ascii
  have clear : ∀ b ∈ last.toUtf8, (b == UInt8.ofNat d.toNat) = false :=
    finds.none_of_free (beq_eq_false_of_not_mem free)
  have unfound : last.toUtf8.reverse.findIdx? (· == UInt8.ofNat d.toNat) = none :=
    List.findIdx?_eq_none_iff.mpr (by simpa using clear)
  rw [lastIdx?, Text.toUtf8_append, List.reverse_append, List.findIdx?_append, unfound]
  cases lead using List.reverseRecOn with
  | nil => rfl
  | append_singleton front c =>
    obtain rfl : c = d := ends c List.getLast?_concat
    rw [toUtf8_concat, encodeChar_of_ascii ascii, Text.utf8Length_append]
    have one : Text.utf8Length [c] = 1 := by
      rw [← Text.length_toUtf8, toUtf8_cons, encodeChar_of_ascii ascii]
      rfl
    simp [List.findIdx?_cons, Text.length_toUtf8, one]
    omega

end Utf8

namespace Url
open Utf8

theorem finds_endsAuthority : Finds endsAuthorityByte endsAuthority :=
  ((finds_char (d := '/') (by decide)).or (finds_char (d := '?') (by decide))).or
    (finds_char (d := '#') (by decide))

theorem isSchemeByte_of_high {b : UInt8} (high : 0x80 ≤ b.toNat) : isSchemeByte b = false := by
  have table : ∀ n < 0x100, 0x80 ≤ n → isSchemeByte (UInt8.ofNat n) = false := by
    decide +kernel
  simpa only [UInt8.ofNat_toNat] using table b.toNat b.toNat_lt high

theorem isSchemeChar_of_high {c : Char} (high : 0x80 ≤ c.toNat) : isSchemeChar c = false := by
  have other (d : Char) (ascii : d.toNat < 0x80) : (c == d) = false := by
    rw [beq_eq_false_iff_ne]
    rintro rfl
    omega
  have letters : c.isAlphanum = false := by
    change (decide ('A'.val ≤ c.val ∧ c.val ≤ 'Z'.val) ||
      decide ('a'.val ≤ c.val) && decide (c.val ≤ 'z'.val) ||
      decide ('0'.val ≤ c.val) && decide (c.val ≤ '9'.val)) = false
    simp only [Bool.or_eq_false_iff, Bool.and_eq_false_iff, decide_eq_false_iff_not,
      UInt32.le_iff_toNat_le, Char.toNat_val, Char.reduceToNat]
    omega
  simp [isSchemeChar, letters, other '+' (by decide), other '-' (by decide), other '.' (by decide)]

theorem all_isSchemeByte_encodeChar (c : Char) :
    (String.utf8EncodeChar c).all isSchemeByte = isSchemeChar c := by
  by_cases ascii : c.toNat < 0x80
  · have table : ∀ n < 0x80, (String.utf8EncodeChar (Char.ofNat n)).all isSchemeByte =
        isSchemeChar (Char.ofNat n) := by decide
    simpa only [Char.ofNat_toNat] using table c.toNat ascii
  · obtain ⟨first, tails, bytes, _⟩ := exists_encodeChar_eq c
    have high := high_of_mem_encodeChar (Nat.le_of_not_lt ascii) (bytes ▸ List.mem_cons_self)
    rw [bytes, List.all_cons, isSchemeByte_of_high high,
      isSchemeChar_of_high (Nat.le_of_not_lt ascii), Bool.false_and]

theorem all_isSchemeByte_toUtf8 (text : Text) :
    text.toUtf8.all isSchemeByte = text.all isSchemeChar := by
  induction text with
  | nil => rfl
  | cons c rest ih =>
    rw [toUtf8_cons, List.all_append, List.all_cons, all_isSchemeByte_encodeChar, ih]

/-- Two slashes after a colon, looked for as bytes. -/
theorem slashes_toUtf8 (scheme rest : Text) :
    (scheme.utf8Length + 2 < (Text.toUtf8 (scheme ++ ':' :: rest)).length &&
        (Text.toUtf8 (scheme ++ ':' :: rest))[scheme.utf8Length + 1]? == some 0x2F &&
        (Text.toUtf8 (scheme ++ ':' :: rest))[scheme.utf8Length + 2]? == some 0x2F) =
      decide (['/', '/'] <+: rest) := by
  have first : (Text.toUtf8 (scheme ++ ':' :: rest))[scheme.utf8Length + 1]? = some 0x2F ↔
      rest.head? = some '/' := by
    have found := getElem?_toUtf8_iff (d := '/') (by decide) (scheme ++ [':']) rest
    rwa [List.append_assoc, Text.utf8Length_append] at found
  rw [Bool.eq_iff_iff]
  simp only [Bool.and_eq_true, decide_eq_true_eq, beq_iff_eq, first]
  constructor
  · rintro ⟨⟨_, opens⟩, second⟩
    obtain ⟨rest, rfl⟩ := List.head?_eq_some_iff.mp opens
    have found := getElem?_toUtf8_iff (d := '/') (by decide) (scheme ++ [':', '/']) rest
    rw [List.append_assoc, Text.utf8Length_append] at found
    obtain ⟨after, rfl⟩ := List.head?_eq_some_iff.mp (found.mp second)
    exact ⟨after, rfl⟩
  · rintro ⟨after, rfl⟩
    have found := getElem?_toUtf8_iff (d := '/') (by decide) (scheme ++ [':', '/']) ('/' :: after)
    rw [List.append_assoc, Text.utf8Length_append] at found
    have second := found.mpr rfl
    exact ⟨⟨(List.getElem?_eq_some_iff.mp second).1, rfl⟩, second⟩

section FirstColon
variable {scheme : Text} (free : ':' ∉ scheme) (rest : Text)
include free

theorem schemeEndAt?_append :
    schemeEndAt? (Text.toUtf8 (scheme ++ ':' :: rest)) =
      if scheme = [] then none
      else if !scheme.all isSchemeChar then none
      else if ['/', '/'] <+: rest then some (scheme.utf8Length + 3) else none := by
  have finds := finds_char (d := ':') (by decide)
  have colon : (Text.toUtf8 (scheme ++ ':' :: rest)).findIdx? (· == 0x3A) =
      some (Text.utf8Length scheme) :=
    finds.findIdx?_append (beq_eq_false_of_not_mem free) (beq_self_eq_true ':') rest
  have front : (Text.toUtf8 (scheme ++ ':' :: rest)).take (Text.utf8Length scheme) =
      Text.toUtf8 scheme := by
    rw [Text.toUtf8_append, ← Text.length_toUtf8, List.take_left]
  have empty : Text.utf8Length scheme = 0 ↔ scheme = [] := by
    constructor
    · intro none
      by_contra filled
      exact absurd none (Nat.ne_of_gt (Text.utf8Length_pos filled))
    · rintro rfl
      rfl
  rw [schemeEndAt?, colon, Option.bind_eq_bind, Option.bind_some, front, all_isSchemeByte_toUtf8,
    slashes_toUtf8]
  simp only [empty, decide_eq_true_eq]

theorem schemeEnd?_append :
    schemeEnd? (scheme ++ ':' :: rest) =
      if scheme = [] then none
      else if !scheme.all isSchemeChar then none
      else if ['/', '/'] <+: rest then some (scheme.utf8Length + 3) else none := by
  obtain ⟨read, unread⟩ :=
    Text.scanTo_iff.mpr ⟨(rfl : scheme ++ ':' :: rest = _), free, by simp⟩
  rw [schemeEnd?, splitScheme?, read, unread]
  by_cases slashes : ['/', '/'] <+: rest
  · obtain ⟨after, rfl⟩ := slashes
    by_cases empty : scheme = [] <;> cases scheme.all isSchemeChar <;> simp [empty]
  · have other : ∀ after, rest ≠ '/' :: '/' :: after :=
      fun after same => slashes ⟨after, same.symm⟩
    rw [if_neg slashes]
    split
    next after same => exact absurd (List.cons.inj same).2 (other after)
    next => split_ifs <;> rfl

end FirstColon

theorem schemeEndAt?_toUtf8 (url : Text) : schemeEndAt? url.toUtf8 = schemeEnd? url := by
  by_cases inside : ':' ∈ url
  · obtain ⟨scheme, rest, rfl, free⟩ := List.eq_append_cons_of_mem inside
    rw [schemeEndAt?_append free, schemeEnd?_append free]
  · have finds := finds_char (d := ':') (by decide)
    have missed : url.toUtf8.findIdx? (· == 0x3A) = none :=
      finds.findIdx?_eq_none (beq_eq_false_of_not_mem inside)
    have unsplit : splitScheme? url = none := by
      apply Option.eq_none_iff_forall_ne_some.mpr
      rintro ⟨scheme, rest⟩ split
      obtain ⟨rfl, _⟩ := splitScheme?_eq_some_iff.mp split
      simp at inside
    rw [schemeEndAt?, schemeEnd?, missed, unsplit]
    rfl

/-- Behind a bracket nothing but a port is in the way of a host. -/
theorem blocked_toUtf8 (front after tail : Text) :
    (front.utf8Length < front.utf8Length + after.utf8Length &&
        (Text.toUtf8 (front ++ (after ++ tail)))[front.utf8Length]? != some 0x3A) =
      !(after.isEmpty || after.head? == some ':') := by
  have port := getElem?_toUtf8_iff (d := ':') (by decide) front (after ++ tail)
  cases after with
  | nil => simp [Text.utf8Length]
  | cons c rest =>
    have longer := Text.utf8Length_pos (List.cons_ne_nil c rest)
    have same : ((Text.toUtf8 (front ++ (c :: rest ++ tail)))[front.utf8Length]? == some 0x3A) =
        ((c :: rest).head? == some ':') := by
      rw [Bool.eq_iff_iff, beq_iff_eq, beq_iff_eq]
      exact port
    rw [bne, same, decide_eq_true (Nat.lt_add_of_pos_right longer), Bool.true_and]
    rfl

section Brackets
variable (before : Text)

theorem opens_bracket (inner tail : Text) :
    ((Text.toUtf8 (before ++ '[' :: inner ++ tail))[before.utf8Length]? == some 0x5B) = true := by
  rw [beq_iff_eq, List.append_assoc]
  exact (getElem?_toUtf8_iff (d := '[') (by decide) before _).mpr rfl

theorem bracket_free {inner : Text} (free : ']' ∉ inner) : ∀ c ∈ '[' :: inner, (c == ']') = false :=
  beq_eq_false_of_not_mem (by simpa using free)

theorem takeHostAt?_closed {address : Text} (free : ']' ∉ address) (after tail : Text) :
    takeHostAt? (Text.toUtf8 (before ++ '[' :: (address ++ ']' :: after) ++ tail)) before.utf8Length
        (before.utf8Length + Text.utf8Length ('[' :: (address ++ ']' :: after))) =
      if after.isEmpty || after.head? == some ':' then
        some (before.utf8Length, Text.utf8Length (before ++ ('[' :: address ++ [']'])))
      else none := by
  have finds := finds_char (d := ']') (by decide)
  have close : (Text.toUtf8 ('[' :: (address ++ ']' :: after))).findIdx? (· == 0x5D) =
      some (Text.utf8Length ('[' :: address)) :=
    finds.findIdx?_append (bracket_free free) (beq_self_eq_true ']') after
  let front := before ++ ('[' :: address ++ [']'])
  have stop : before.utf8Length + Text.utf8Length ('[' :: address) + 1 = front.utf8Length := by
    rw [Text.utf8Length_append, Text.utf8Length_append, ← Nat.add_assoc]
    rfl
  have whole : before.utf8Length + Text.utf8Length ('[' :: (address ++ ']' :: after)) =
      front.utf8Length + Text.utf8Length after := by
    rw [← Text.utf8Length_append, ← Text.utf8Length_append]
    exact congrArg Text.utf8Length (by simp [front])
  have written : before ++ '[' :: (address ++ ']' :: after) ++ tail = front ++ (after ++ tail) := by
    simp [front]
  rw [takeHostAt?, if_pos (opens_bracket ..), between_toUtf8, close, Option.bind_eq_bind,
    Option.bind_some]
  dsimp only
  rw [stop, whole, written, blocked_toUtf8]
  cases after.isEmpty || after.head? == some ':' <;> rfl

theorem takeHostAt?_unclosed {inner : Text} (free : ']' ∉ inner) (tail : Text) :
    takeHostAt? (Text.toUtf8 (before ++ '[' :: inner ++ tail)) before.utf8Length
      (before.utf8Length + Text.utf8Length ('[' :: inner)) = none := by
  have finds := finds_char (d := ']') (by decide)
  have unclosed : (Text.toUtf8 ('[' :: inner)).findIdx? (· == 0x5D) = none :=
    finds.findIdx?_eq_none (bracket_free free)
  rw [takeHostAt?, if_pos (opens_bracket ..), between_toUtf8, unclosed]
  rfl

theorem takeHostAt?_bracketed (inner tail : Text) :
    takeHostAt? (Text.toUtf8 (before ++ '[' :: inner ++ tail)) before.utf8Length
        (before.utf8Length + Text.utf8Length ('[' :: inner)) =
      (takeHost? ('[' :: inner)).map fun host =>
        (before.utf8Length, before.utf8Length + host.utf8Length) := by
  by_cases closed : ']' ∈ inner
  · obtain ⟨address, after, rfl, free⟩ := List.eq_append_cons_of_mem closed
    obtain ⟨read, unread⟩ := Text.scanTo_iff.mpr
      ⟨(rfl : address ++ ']' :: after = _), free, by simp⟩
    rw [takeHostAt?_closed before free, Text.utf8Length_append]
    simp only [takeHost?, read, unread]
    cases after.isEmpty || after.head? == some ':' <;> rfl
  · have unread : inner.dropWhile (· ≠ ']') = [] :=
      List.dropWhile_eq_nil_iff.mpr fun c member =>
        decide_eq_true fun same => closed (same ▸ member)
    rw [takeHostAt?_unclosed before closed]
    simp only [takeHost?, unread]
    rfl

end Brackets

theorem takeHostAt?_toUtf8 (before part : Text) {tail : Text}
    (opens : ∀ c ∈ tail.head?, endsAuthority c = true) :
    takeHostAt? (Text.toUtf8 (before ++ part ++ tail)) before.utf8Length
        (before.utf8Length + part.utf8Length) =
      (takeHost? part).map fun host =>
        (before.utf8Length, before.utf8Length + host.utf8Length) := by
  by_cases bracket : part.head? = some '['
  · obtain ⟨inner, rfl⟩ := List.head?_eq_some_iff.mp bracket
    exact takeHostAt?_bracketed before inner tail
  · have finds := finds_char (d := ':') (by decide)
    have unopened : (Text.toUtf8 (before ++ part ++ tail))[before.utf8Length]? ≠ some 0x5B := by
      rw [List.append_assoc]
      refine mt (getElem?_toUtf8_iff (d := '[') (by decide) before _).mp ?_
      cases part with
      | nil => exact fun first => absurd (opens _ first) (by decide)
      | cons c rest => exact bracket
    obtain ⟨joined, free, stop⟩ := Text.scanTo_iff.mp
      (And.intro (rfl : part.takeWhile (· ≠ ':') = _) rfl)
    have colon := finds.elim_findIdx? (beq_eq_false_of_not_mem free)
      (fun c first => beq_iff_eq.mpr (stop c first)) before.utf8Length
    rw [← joined] at colon
    rw [takeHostAt?, if_neg (by simpa using unopened), between_toUtf8,
      takeHost?_unbracketed bracket]
    have ends : ((Text.toUtf8 part).findIdx? (· == 0x3A)).elim
        (before.utf8Length + part.utf8Length) (before.utf8Length + ·) =
        before.utf8Length + Text.utf8Length (part.takeWhile (· ≠ ':')) := colon
    rw [ends]
    by_cases empty : part.takeWhile (· ≠ ':') = []
    · rw [if_pos empty, if_pos (by rw [empty]; rfl)]
      rfl
    · have longer := Text.utf8Length_pos empty
      rw [if_neg empty, if_neg (by omega)]
      rfl

theorem authorityEndAt_toUtf8 (before : Text) {authority tail : Text}
    (free : ∀ c ∈ authority, endsAuthority c = false)
    (opens : ∀ c ∈ tail.head?, endsAuthority c = true) :
    authorityEndAt (Text.toUtf8 (before ++ authority ++ tail)) before.utf8Length =
      before.utf8Length + authority.utf8Length := by
  have stop := finds_endsAuthority.elim_findIdx? free opens before.utf8Length
  rw [authorityEndAt, List.append_assoc, Text.length_toUtf8, Text.utf8Length_append,
    Text.toUtf8_append before, ← Text.length_toUtf8 before, List.drop_left, Text.length_toUtf8]
  exact stop

theorem hostStartAt_toUtf8 (before : Text) {lead last : Text} (free : '@' ∉ last)
    (ends : ∀ c ∈ lead.getLast?, c = '@') (tail : Text) :
    hostStartAt (Text.toUtf8 (before ++ (lead ++ last) ++ tail)) before.utf8Length
        (before.utf8Length + Text.utf8Length (lead ++ last)) =
      before.utf8Length + lead.utf8Length := by
  rw [hostStartAt, between_toUtf8]
  exact lastIdx?_toUtf8 (d := '@') (by decide) free ends before.utf8Length

theorem hostSpan?_of_authority {url scheme lead last tail : Text}
    (split : splitScheme? url = some (scheme, lead ++ last ++ tail))
    (runsOn : ∀ c ∈ lead ++ last, endsAuthority c = false)
    (opens : ∀ c ∈ tail.head?, endsAuthority c = true) (unmarked : '@' ∉ last)
    (ends : ∀ c ∈ lead.getLast?, c = '@') :
    hostSpan? url = (takeHost? last).map fun host =>
      (Text.utf8Length (scheme ++ ':' :: '/' :: '/' :: lead),
        Text.utf8Length (scheme ++ ':' :: '/' :: '/' :: lead) + host.utf8Length) := by
  obtain ⟨authority, _⟩ :
      (lead ++ last ++ tail).takeWhile (!endsAuthority ·) = lead ++ last ∧
        (lead ++ last ++ tail).dropWhile (!endsAuthority ·) = tail :=
    Text.scan_iff.mpr ⟨rfl, by simpa using runsOn, by simpa using opens⟩
  have hostAndPort : Text.afterLast '@' (lead ++ last) = last :=
    Text.afterLast_eq_iff.mpr ⟨unmarked, lead, rfl, ends⟩
  have userInfo : (lead ++ last).take ((lead ++ last).length - last.length) = lead := by
    rw [List.length_append, Nat.add_sub_cancel, List.take_left]
  rw [hostSpan?, splitHost?, split, Option.bind_eq_bind, Option.bind_some]
  simp only [authority, hostAndPort, userInfo]
  cases takeHost? last <;> rfl

/-- The host has the same positions, looked for in the bytes of a URL or in its characters. -/
theorem hostSpanAt?_toUtf8 (url : Text) : hostSpanAt? url.toUtf8 = hostSpan? url := by
  rw [hostSpanAt?, schemeEndAt?_toUtf8]
  cases split : splitScheme? url with
  | none => rw [schemeEnd?, hostSpan?, splitHost?, split]; rfl
  | some parts =>
    obtain ⟨scheme, rest⟩ := parts
    obtain ⟨rfl, _⟩ := splitScheme?_eq_some_iff.mp split
    obtain ⟨authority, tail, rfl, runsOn, opens⟩ :
        ∃ authority tail, rest = authority ++ tail ∧ (∀ c ∈ authority, endsAuthority c = false) ∧
          ∀ c ∈ tail.head?, endsAuthority c = true := by
      obtain ⟨joined, runsOn, opens⟩ :=
        Text.scan_iff.mp (And.intro (rfl : rest.takeWhile (!endsAuthority ·) = _) rfl)
      exact ⟨_, _, joined, by simpa using runsOn, by simpa using opens⟩
    obtain ⟨lead, last, rfl, unmarked, ends⟩ :
        ∃ lead last, authority = lead ++ last ∧ '@' ∉ last ∧ ∀ c ∈ lead.getLast?, c = '@' := by
      obtain ⟨unmarked, lead, cut, ends⟩ :=
        Text.afterLast_eq_iff.mp (rfl : Text.afterLast '@' authority = _)
      exact ⟨lead, _, cut, unmarked, ends⟩
    let front := scheme ++ [':', '/', '/']
    have written : scheme ++ ':' :: '/' :: '/' :: (lead ++ last ++ tail) =
        front ++ (lead ++ last) ++ tail := by
      simp [front]
    have position : schemeEnd? (front ++ (lead ++ last) ++ tail) = some front.utf8Length := by
      rw [← written, schemeEnd?, split, Option.map_some, Text.utf8Length_append]
      rfl
    have before : scheme ++ ':' :: '/' :: '/' :: lead = front ++ lead := by simp [front]
    rw [hostSpan?_of_authority split runsOn opens unmarked ends, written, position, before,
      Option.bind_eq_bind, Option.bind_some]
    dsimp only
    rw [authorityEndAt_toUtf8 front runsOn opens, hostStartAt_toUtf8 front unmarked ends tail,
      Text.utf8Length_append lead, ← Nat.add_assoc, ← Text.utf8Length_append,
      ← List.append_assoc front]
    exact takeHostAt?_toUtf8 (front ++ lead) last opens

/-- The host of a URL is found exactly where the URL can be written with one; it is then the only
one, at least one byte long, and its positions cut it out of the URL. No other text has a host, and
a scan of the bytes comes to the same positions. -/
theorem hostSpan?_iff_written (url : Text) :
    (∀ start stop, hostSpan? url = some (start, stop) ↔
      ∃ written : WrittenUrl, written.text = url ∧ start = written.before.utf8Length ∧
        stop = start + written.host.utf8Length) ∧
    (∀ written : WrittenUrl, written.text = url →
      let start := written.before.utf8Length
      let stop := start + written.host.utf8Length
      start < stop ∧ stop ≤ url.utf8Length ∧
        Text.slice? url start stop = some written.host ∧
        (url.toUtf8.take stop).drop start = written.host.toUtf8 ∧
        host? url = some written.host ∧
        ∀ other : WrittenUrl, other.text = url →
          other.before = written.before ∧ other.host = written.host) ∧
    ((∀ written : WrittenUrl, written.text ≠ url) → hostSpan? url = none ∧ host? url = none) ∧
    hostSpanAt? url.toUtf8 = hostSpan? url := by
  refine ⟨fun start stop => ⟨fun found => ?_, ?_⟩, ?_, fun unwritten => ?_, hostSpanAt?_toUtf8 url⟩
  · obtain ⟨split, cut, same⟩ := Option.map_eq_some_iff.mp found
    obtain ⟨written, rfl, rfl⟩ := splitHost?_eq_some_iff.mp cut
    cases same
    exact ⟨written, rfl, rfl, rfl⟩
  · rintro ⟨written, rfl, rfl, rfl⟩
    exact hostSpan?_text written
  · rintro written rfl
    refine ⟨Nat.lt_add_of_pos_right (Text.utf8Length_pos written.host_ne_nil), ?_,
      slice?_host written, Text.toUtf8_of_slice? (slice?_host written), host?_text written,
      fun other same => host_unique same⟩
    rw [WrittenUrl.text, Text.utf8Length_append, Text.utf8Length_append]
    exact Nat.le_add_right _ _
  · have none : splitHost? url = none := by
      apply Option.eq_none_iff_forall_ne_some.mpr
      intro split found
      obtain ⟨written, same⟩ := exists_written found
      exact unwritten written same
    rw [hostSpan?, host?, none]
    exact ⟨rfl, rfl⟩

theorem hostSpan?_of_brackets :
    let url := "a+b://ü:p@x@[::é]:80?q@[c]".toList
    let broken := "a+b://ü:p@x@[::é]80?q@[c]".toList
    (∃ written : WrittenUrl, written.text = url ∧ written.host = "[::é]".toList ∧
      hostSpan? url = some (13, 19) ∧ Text.slice? url 13 19 = some "[::é]".toList ∧
      ∀ other : WrittenUrl, other.text = url → other.host = "[::é]".toList) ∧
    (∀ written : WrittenUrl, written.text ≠ broken) ∧ hostSpan? broken = none := by
  intro url broken
  let written : WrittenUrl := {
    scheme := "a+b".toList
    userInfo := some "ü:p@x".toList
    host := "[::é]".toList
    port := some "80".toList
    tail := "?q@[c]".toList
    scheme_filled := by simp
    scheme_plain := by simp
    userInfo_free := by simp
    host_ends := .bracketed "::é".toList (by simp)
    host_free := by simp
    port_free := by simp
    tail_opens := by simp }
  have same : written.text = url := by decide +kernel
  obtain ⟨found, cut, _⟩ := hostSpan?_iff_written url
  obtain ⟨_, _, sliced, _, _, unique⟩ := cut written same
  have unwritten : ∀ other : WrittenUrl, other.text ≠ broken := by
    intro other spelled
    have span := ((hostSpan?_iff_written broken).1 _ _).mpr ⟨other, spelled, rfl, rfl⟩
    have none : hostSpan? broken = none := by decide +kernel
    rw [none] at span
    cases span
  refine ⟨⟨written, same, rfl, (found 13 19).mpr ⟨written, same, ?_, ?_⟩, sliced, ?_⟩, unwritten,
    ?_⟩
  · decide +kernel
  · decide +kernel
  · exact fun other spelled => (unique other spelled).2
  · exact ((hostSpan?_iff_written broken).2.2.1 unwritten).1

end Url

end FilterList
