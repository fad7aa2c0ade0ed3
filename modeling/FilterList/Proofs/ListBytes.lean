import FilterList.Proofs.CompilerRun
import FilterList.Proofs.TextCutting
import FilterList.Proofs.Utf8Decoding

/-! A list in bytes is compiled line by line, whatever the bytes. A part that is no text spoils only
the line it stands in, be it cut short by the line's end, and a list that is text is compiled as that
text, with or without a byte order mark. -/

namespace FilterList

namespace Text

theorem trim_dropTail_return (line : Text) : trim (dropTail line ['\r']) = trim line := by
  by_cases ends : ['\r'] <:+ line
  · obtain ⟨before, rfl⟩ := ends
    rw [trim_append_blank before (List.forall_mem_singleton.mpr (by decide)), dropTail,
      List.isSuffixOf?_eq_some_iff_append_eq.mpr rfl, Option.getD_some]
  · rw [dropTail, isSuffixOf?_eq_none ends, Option.getD_none]

/-- Trimmed, the lines of a text are its parts between line feeds, but for an empty last part. -/
theorem map_trim_pieces (text : Text) :
    ∃ rest, (rest = [] ∨ rest = [[]]) ∧
      (pieces '\n' text).map trim = (lines text).map trim ++ rest := by
  have nonempty := pieces_ne_nil '\n' text
  have bare : ((pieces '\n' text).dropLast.map (dropTail · ['\r'])).map trim =
      (pieces '\n' text).dropLast.map trim := by
    rw [List.map_map]
    exact List.map_congr_left fun line _ => trim_dropTail_return line
  have whole : (pieces '\n' text).map trim = (pieces '\n' text).dropLast.map trim ++
      [trim ((pieces '\n' text).getLast nonempty)] := by
    conv_lhs => rw [← List.dropLast_concat_getLast nonempty, List.map_append, List.map_singleton]
  rw [whole, lines, List.map_append, bare, List.getLast?_eq_some_getLast nonempty]
  cases (pieces '\n' text).getLast nonempty with
  | nil => exact ⟨[[]], .inr rfl, by rw [lastLine, List.map_nil, List.append_nil]; rfl⟩
  | cons c rest => exact ⟨[], .inl rfl, by simp [lastLine]⟩

end Text

theorem Line.outcome_congr {line other : Text} (same : Text.trim line = Text.trim other) :
    outcome line = outcome other := by
  rw [outcome, outcome, content, content, same]

def RuleSet.followedBy (first second : RuleSet) : RuleSet :=
  ⟨first.header.or second.header, first.placements ++ second.placements⟩

theorem RuleSet.table_followedBy (first second : RuleSet) (table : Table) :
    (first.followedBy second).table table = first.table table ++ second.table table :=
  List.filterMap_append

namespace Compilation

theorem rules_append (before after : List Text) :
    (ofLines (before ++ after)).rules = (ofLines before).rules.followedBy (ofLines after).rules := by
  simp [ofLines, Compiler.read_append, Compiler.finish, Compiler.followedBy, RuleSet.followedBy]

theorem rules_map_trim (lines : List Text) :
    (ofLines (lines.map Text.trim)).rules = (ofLines lines).rules := by
  apply rules_congr
  rw [List.map_map]
  exact List.map_congr_left fun line _ => Line.outcome_congr (Text.trim_trim line)

/-- The rules of a text are those of its parts between line feeds: the carriage return before a line
feed is white space in its line, and an empty last part places nothing. -/
theorem rules_ofText (text : Text) :
    (ofText text).rules = (ofLines (text.pieces '\n')).rules := by
  obtain ⟨rest, idle, parts⟩ := Text.map_trim_pieces text
  have nothing : (ofLines rest).rules = (ofLines []).rules := by
    obtain rfl | rfl := idle <;> rfl
  have rules : (ofLines (text.pieces '\n')).rules = (ofLines (Text.lines text ++ [])).rules := by
    rw [← rules_map_trim, parts, rules_append, nothing, rules_map_trim, rules_append]
  rw [rules, List.append_nil, ofText]

theorem rules_ofText_append (before after : Text) :
    (ofText (before ++ '\n' :: after)).rules =
      (ofText before).rules.followedBy (ofText after).rules := by
  simp only [rules_ofText, Text.pieces_append_separator, rules_append]

end Compilation

namespace Utf8

theorem toTextLossy_append_lineFeed (before after : Bytes) :
    toTextLossy (before ++ 0x0A :: after) = toTextLossy before ++ '\n' :: toTextLossy after := by
  rw [toTextLossy, decode_append_ascii (by decide), List.map_append]
  rfl

theorem toTextLossy_toUtf8 (text : Text) : toTextLossy text.toUtf8 = text := by
  rw [toTextLossy, decode_toUtf8, List.map_map]
  exact List.map_id text

end Utf8

theorem decodeList_mark_append (bytes : Bytes) :
    decodeList (Utf8.byteOrderMark ++ bytes) = Utf8.toTextLossy bytes := by
  rw [decodeList, List.isPrefixOf?_eq_some_iff_append_eq.mpr rfl, Option.getD_some]

theorem decodeList_of_no_mark {bytes : Bytes} (noMark : ¬ Utf8.byteOrderMark <+: bytes) :
    decodeList bytes = Utf8.toTextLossy bytes := by
  unfold decodeList
  cases found : Utf8.byteOrderMark.isPrefixOf? bytes with
  | none => rfl
  | some rest => exact absurd ⟨rest, List.isPrefixOf?_eq_some_iff_append_eq.mp found⟩ noMark

theorem mark_prefix_of_append {before after : Bytes}
    (marked : Utf8.byteOrderMark <+: before ++ 0x0A :: after) : Utf8.byteOrderMark <+: before := by
  obtain ⟨rest, same⟩ := marked
  obtain ⟨part, rfl, _⟩ | ⟨part, split, later⟩ := List.append_eq_append_iff.mp same
  · exact List.prefix_append ..
  · cases part with
    | nil =>
      rw [List.append_nil] at split
      exact split ▸ List.prefix_refl _
    | cons b part =>
      have inside : 0x0A ∈ Utf8.byteOrderMark := by
        injection later with lineFeed
        rw [split, ← lineFeed]
        exact List.mem_append_right _ List.mem_cons_self
      exact absurd inside (by decide)

theorem decodeList_append_lineFeed (before after : Bytes) :
    decodeList (before ++ 0x0A :: after) = decodeList before ++ '\n' :: Utf8.toTextLossy after := by
  by_cases marked : Utf8.byteOrderMark <+: before
  · obtain ⟨rest, rfl⟩ := marked
    rw [List.append_assoc, decodeList_mark_append, decodeList_mark_append,
      Utf8.toTextLossy_append_lineFeed]
  · rw [decodeList_of_no_mark (mt mark_prefix_of_append marked), decodeList_of_no_mark marked,
      Utf8.toTextLossy_append_lineFeed]

/-- The bytes of a text begin with the mark only where the text begins with its character. -/
theorem not_mark_prefix_toUtf8 {text : Text} (unmarked : text.head? ≠ some '\uFEFF') :
    ¬ Utf8.byteOrderMark <+: text.toUtf8 := by
  intro ⟨rest, same⟩
  have read := Utf8.decode_toUtf8 text
  have mark : Utf8.byteOrderMark = String.utf8EncodeChar '\uFEFF' := by decide
  rw [← same, mark, Utf8.decode_encodeChar] at read
  cases text with
  | nil => cases read
  | cons c text =>
    injection read with first
    exact unmarked first.symm

namespace Compilation

/-- A line feed in the bytes of a list parts the list in two, whatever stands before and after it,
unless a mark stands right after it; and bytes that are text are compiled as that text, marked or
not. -/
theorem rules_ofBytes :
    (∀ before after : Bytes, ¬ Utf8.byteOrderMark <+: after →
      (∀ table, (ofBytes (before ++ 0x0A :: after)).rules.table table =
        (ofBytes before).rules.table table ++ (ofBytes after).rules.table table) ∧
      (ofBytes (before ++ 0x0A :: after)).rules.header.title =
        (ofBytes before).rules.header.title.or (ofBytes after).rules.header.title ∧
      (ofBytes (before ++ 0x0A :: after)).rules.header.version =
        (ofBytes before).rules.header.version.or (ofBytes after).rules.header.version) ∧
    ∀ text : Text, text.head? ≠ some '\uFEFF' →
      ofBytes text.toUtf8 = ofText text ∧
      ofBytes (Utf8.byteOrderMark ++ text.toUtf8) = ofText text := by
  constructor
  · intro before after noMark
    have parted : (ofBytes (before ++ 0x0A :: after)).rules =
        (ofBytes before).rules.followedBy (ofBytes after).rules := by
      rw [ofBytes, decodeList_append_lineFeed, rules_ofText_append, ofBytes, ofBytes,
        decodeList_of_no_mark noMark]
    rw [parted]
    exact ⟨RuleSet.table_followedBy _ _, rfl, rfl⟩
  · intro text unmarked
    constructor
    · rw [ofBytes, decodeList_of_no_mark (not_mark_prefix_toUtf8 unmarked),
        Utf8.toTextLossy_toUtf8]
    · rw [ofBytes, decodeList_mark_append, Utf8.toTextLossy_toUtf8]

theorem rules_ofBytes_cut_short :
    let before := Utf8.byteOrderMark ++ Text.toUtf8 "/ads\n! Title: A".toList ++ [0xE2, 0x82]
    let after := 0xFF :: Text.toUtf8 "-ads\r\n! Title: B".toList
    let text := "! Title: é€\r\n/ads".toList
    ¬ Utf8.byteOrderMark <+: after ∧
    ((∀ table, (ofBytes (before ++ 0x0A :: after)).rules.table table =
        (ofBytes before).rules.table table ++ (ofBytes after).rules.table table) ∧
      (ofBytes (before ++ 0x0A :: after)).rules.header.title = some "A\uFFFD".toList) ∧
    text.head? ≠ some '\uFEFF' ∧ ofBytes (Utf8.byteOrderMark ++ Text.toUtf8 text) = ofText text := by
  intro before after text
  have noMark : ¬ Utf8.byteOrderMark <+: after := by decide +kernel
  have unmarked : text.head? ≠ some '\uFEFF' := by decide +kernel
  obtain ⟨tables, title, _⟩ := rules_ofBytes.1 before after noMark
  refine ⟨noMark, ⟨tables, ?_⟩, unmarked, (rules_ofBytes.2 text unmarked).2⟩
  rw [title]
  decide +kernel

end Compilation

end FilterList
