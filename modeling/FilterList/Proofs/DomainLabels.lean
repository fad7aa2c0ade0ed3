import FilterList.Proofs.PageHost
import FilterList.Proofs.TextBytes

/-! A domain covers a host by whole labels: the host is the domain, or ends with a dot and the domain.
The test on their bytes comes to the same, since it cuts the host only between two characters. -/

namespace FilterList

def SameName (left right : Text) : Prop :=
  left.toUtf8.map Utf8.lowerByte = right.toUtf8.map Utf8.lowerByte

theorem Text.count_dot_eq_of_sameName {left right : Text} (same : SameName left right) :
    left.count '.' = right.count '.' := by
  have dots (text : Text) : (lower text).count '.' = text.count '.' := by
    rw [lower, List.count_eq_countP, List.count_eq_countP, List.countP_map]
    apply List.countP_congr
    intro c _
    simp only [Function.comp_apply, beq_iff_eq, toLower_eq_dot_iff]
  rw [← dots left, ← dots right, caselessEq_iff.mp (Utf8.caselessEq_iff_bytes.mpr same)]

namespace Domain

/-- The test on the bytes of a domain and a host. The domain has to begin between two characters of
the host. -/
def coversBytes (domain host : Bytes) : Bool :=
  let name := ([0x2E].isPrefixOf? domain).getD domain
  let position := host.length - name.length
  !name.isEmpty && name.length ≤ host.length && Utf8.isBoundary host position &&
    (host.drop position).map Utf8.lowerByte == name.map Utf8.lowerByte &&
    ((host.take position).isEmpty || (host.take position).getLast? == some 0x2E)

theorem covers_iff_cut {domain host : Text} :
    covers domain host = true ↔ domain.dropLead ['.'] ≠ [] ∧ ∃ head tail, host = head ++ tail ∧
      SameName tail (domain.dropLead ['.']) ∧ (head = [] ∨ head.getLast? = some '.') := by
  unfold covers SameName
  generalize domain.dropLead ['.'] = name
  simp only [Bool.and_eq_true, Bool.or_eq_true, Bool.not_eq_true', decide_eq_true_eq, beq_iff_eq,
    List.isEmpty_iff, List.isEmpty_eq_false_iff, Utf8.caselessEq_iff_bytes]
  constructor
  · intro ⟨⟨⟨filled, _⟩, same⟩, opens⟩
    exact ⟨filled, _, _, (List.take_append_drop _ host).symm, same, opens⟩
  · rintro ⟨filled, head, tail, rfl, same, opens⟩
    have length : tail.length = name.length :=
      Text.length_eq_of_lower (Text.caselessEq_iff.mp (Utf8.caselessEq_iff_bytes.mpr same))
    have position : (head ++ tail).length - name.length = head.length := by
      rw [List.length_append, length, Nat.add_sub_cancel]
    rw [position, List.drop_left, List.take_left]
    refine ⟨⟨⟨filled, ?_⟩, same⟩, opens⟩
    rw [List.length_append, length]
    exact Nat.le_add_left _ _

theorem covers_iff_name {domain host : Text} :
    covers domain host = true ↔ domain.dropLead ['.'] ≠ [] ∧
      (SameName host (domain.dropLead ['.']) ∨ ∃ labels rest, host = labels ++ '.' :: rest ∧
        SameName rest (domain.dropLead ['.'])) := by
  rw [covers_iff_cut]
  apply and_congr_right
  intro _
  constructor
  · rintro ⟨head, tail, rfl, same, rfl | dot⟩
    · exact .inl same
    · obtain ⟨labels, rfl⟩ := List.getLast?_eq_some_iff.mp dot
      exact .inr ⟨labels, tail, List.append_assoc .., same⟩
  · rintro (same | ⟨labels, rest, rfl, same⟩)
    · exact ⟨[], host, rfl, same, .inl rfl⟩
    · exact ⟨labels ++ ['.'], rest, by rw [List.append_assoc]; rfl, same, .inr List.getLast?_concat⟩

theorem covers_subdomain {domain host : Text} (covered : covers domain host = true) (labels : Text) :
    covers domain (labels ++ '.' :: host) = true := by
  obtain ⟨filled, same | ⟨between, rest, rfl, same⟩⟩ := covers_iff_name.mp covered
  · exact covers_iff_name.mpr ⟨filled, .inr ⟨labels, host, rfl, same⟩⟩
  · refine covers_iff_name.mpr ⟨filled, .inr ⟨labels ++ '.' :: between, rest, ?_, same⟩⟩
    rw [List.append_assoc, List.cons_append]

theorem covers_self_iff {domain : Text} :
    covers domain domain = true ↔ domain ≠ [] ∧ domain ≠ ['.'] := by
  rw [covers_iff_name]
  constructor
  · intro ⟨filled, _⟩
    constructor
    · rintro rfl
      exact filled rfl
    · rintro rfl
      exact filled rfl
  · intro ⟨filled, notDot⟩
    rcases Text.dropLead_singleton_cases domain '.' with kept | dotted
    · rw [kept]
      exact ⟨filled, .inl rfl⟩
    · refine ⟨fun empty => ?_, .inr ⟨[], _, dotted, rfl⟩⟩
      rw [empty] at dotted
      exact notDot dotted

/-- A domain covers no part of itself that leaves out anything but a dot: only its leading dot is not
looked for. -/
theorem eq_nil_of_covers_part {before part after : Text}
    (covered : covers (before ++ part ++ after) part = true)
    (solidBefore : before = [] ∨ before.count '.' < before.length)
    (solidAfter : after = [] ∨ after.count '.' < after.length) : before = [] ∧ after = [] := by
  obtain ⟨_, head, tail, shape, same, _⟩ := covers_iff_cut.mp covered
  have length := Text.length_eq_of_lower
    (Text.caselessEq_iff.mp (Utf8.caselessEq_iff_bytes.mpr same))
  have dots := Text.count_dot_eq_of_sameName same
  have inHead : head.count '.' ≤ head.length := List.count_le_length
  have inBefore : before.count '.' ≤ before.length := List.count_le_length
  have inAfter : after.count '.' ≤ after.length := List.count_le_length
  have cutLength := congrArg List.length shape
  have cutDots := congrArg (List.count '.') shape
  simp only [List.length_append, List.count_append] at cutLength cutDots
  simp only [← List.length_eq_zero_iff] at solidBefore solidAfter ⊢
  rcases Text.dropLead_singleton_cases (before ++ part ++ after) '.' with kept | dotted
  · rw [kept] at length
    simp only [List.length_append] at length
    omega
  · -- One character is left out, and the domain has one dot more than the host.
    have longer := congrArg List.length dotted
    have dottier := congrArg (List.count '.') dotted
    simp only [List.length_append, List.length_cons] at longer
    simp only [List.count_append, List.count_cons_self] at dottier
    omega

theorem coversBytes_toUtf8 (domain host : Text) :
    coversBytes domain.toUtf8 host.toUtf8 = covers domain host := by
  rw [Bool.eq_iff_iff, covers_iff_cut]
  unfold coversBytes SameName
  rw [Utf8.dropLead_dot_toUtf8]
  generalize domain.dropLead ['.'] = name
  simp only [Bool.and_eq_true, Bool.or_eq_true, Bool.not_eq_true', decide_eq_true_eq, beq_iff_eq,
    List.isEmpty_iff, List.isEmpty_eq_false_iff, ne_eq, Utf8.toUtf8_eq_nil_iff]
  constructor
  · intro ⟨⟨⟨⟨filled, _⟩, boundary⟩, same⟩, opens⟩
    obtain ⟨head, tail, rfl, position⟩ := Utf8.isBoundary_toUtf8_iff.mp boundary
    rw [position, ← Text.length_toUtf8, Text.toUtf8_append, List.drop_left] at same
    rw [position, ← Text.length_toUtf8, Text.toUtf8_append, List.take_left, Utf8.toUtf8_eq_nil_iff,
      Utf8.getLast?_toUtf8_eq_dot_iff] at opens
    exact ⟨filled, head, tail, rfl, same, opens⟩
  · rintro ⟨filled, head, tail, rfl, same, opens⟩
    have length : tail.toUtf8.length = name.toUtf8.length := by
      simpa using congrArg List.length same
    have position : (Text.toUtf8 (head ++ tail)).length - name.toUtf8.length =
        head.toUtf8.length := by
      rw [Text.toUtf8_append, List.length_append, length, Nat.add_sub_cancel]
    rw [position]
    refine ⟨⟨⟨⟨filled, ?_⟩, ?_⟩, ?_⟩, ?_⟩
    · rw [Text.toUtf8_append, List.length_append, length]
      exact Nat.le_add_left _ _
    · exact Utf8.isBoundary_toUtf8_iff.mpr ⟨head, tail, rfl, Text.length_toUtf8 head⟩
    · rw [Text.toUtf8_append, List.drop_left]
      exact same
    · rw [Text.toUtf8_append, List.take_left, Utf8.toUtf8_eq_nil_iff, Utf8.getLast?_toUtf8_eq_dot_iff]
      exact opens

/-- A domain without its leading dot, if there is anything in it, covers the hosts that are the same
name and those that end with a dot and that name. The test on bytes gives the same answer and cuts a
host only where the text can be cut, and every subdomain of a covered host is covered. -/
theorem covers_iff_labels (domain host : Text) :
    (covers domain host = true ↔ domain.dropLead ['.'] ≠ [] ∧
      (SameName host (domain.dropLead ['.']) ∨ ∃ labels rest, host = labels ++ '.' :: rest ∧
        SameName rest (domain.dropLead ['.']))) ∧
    coversBytes domain.toUtf8 host.toUtf8 = covers domain host ∧
    (∀ position, Utf8.isBoundary host.toUtf8 position = (host.cutAt? position).isSome) ∧
    ∀ labels, covers domain host = true → covers domain (labels ++ '.' :: host) = true :=
  ⟨covers_iff_name, coversBytes_toUtf8 domain host, Utf8.isBoundary_toUtf8 host,
    fun labels covered => covers_subdomain covered labels⟩

theorem covers_iff_labels_of_office :
    covers ".büro.de".toList "Shop.büRO.DE".toList = true ∧
    covers ".büro.de".toList "m.Shop.büRO.DE".toList = true ∧
    coversBytes (Text.toUtf8 ".büro.de".toList) (Text.toUtf8 "Shop.bÜro.de".toList) = false := by
  have covered : covers ".büro.de".toList "Shop.büRO.DE".toList = true := by decide
  obtain ⟨_, _, _, subdomain⟩ := covers_iff_labels ".büro.de".toList "Shop.büRO.DE".toList
  obtain ⟨_, bytes, _⟩ := covers_iff_labels ".büro.de".toList "Shop.bÜro.de".toList
  exact ⟨covered, subdomain "m".toList covered, bytes.trans (by decide)⟩

end Domain

end FilterList
