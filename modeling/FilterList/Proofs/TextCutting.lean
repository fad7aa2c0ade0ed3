import FilterList.Text.Blank
import Mathlib.Data.List.Basic
import Mathlib.Data.List.Induction
import Mathlib.Data.List.TakeWhile

/-! Text put together from parts is cut back into them where its separator does not occur in a
part. Trimming and dropping leave alone what has nothing to lose. -/

namespace FilterList.Text

theorem pieces_eq_splitOn (separator : Char) (text : Text) :
    pieces separator text = text.splitOn separator := by
  induction text with
  | nil => rfl
  | cons c rest ih =>
    obtain ⟨part, parts, shape⟩ := List.exists_cons_of_ne_nil (pieces_ne_nil separator rest)
    rw [List.splitOn_cons_eq_if_modifyHead, ← ih, pieces, shape]
    simp only [beq_iff_eq, List.modifyHead_cons]

theorem pieces_cons_of_ne {c separator : Char} (other : c ≠ separator) {rest part : Text}
    {parts : List Text} (shape : pieces separator rest = part :: parts) :
    pieces separator (c :: rest) = (c :: part) :: parts := by
  rw [pieces, if_neg other, shape]

theorem pieces_append_separator (separator : Char) (before after : Text) :
    pieces separator (before ++ separator :: after) =
      pieces separator before ++ pieces separator after := by
  simp only [pieces_eq_splitOn, List.splitOn]
  exact List.splitOnP_append_cons before after (beq_self_eq_true separator)

theorem length_pieces (separator : Char) (text : Text) :
    (pieces separator text).length = text.count separator + 1 := by
  induction text with
  | nil => rfl
  | cons c rest ih =>
    obtain ⟨part, parts, shape⟩ := List.exists_cons_of_ne_nil (pieces_ne_nil separator rest)
    rw [pieces]
    split
    next here => rw [here, List.count_cons_self, List.length_cons, ih]
    next other =>
      rw [shape, List.length_cons] at ih
      rw [shape, List.count_cons_of_ne other, List.length_cons, ih]

theorem pieces_append_replicate (separator : Char) (text : Text) (count : Nat) :
    pieces separator (text ++ List.replicate count separator) =
      pieces separator text ++ List.replicate count [] := by
  induction count generalizing text with
  | zero => simp
  | succ count ih =>
    have moved : text ++ List.replicate (count + 1) separator =
        (text ++ [separator]) ++ List.replicate count separator := by
      simp [List.replicate_succ]
    have cut : pieces separator (text ++ [separator]) = pieces separator text ++ [[]] :=
      pieces_append_separator separator text []
    rw [moved, ih, cut, List.append_assoc, List.singleton_append, List.replicate_succ]

theorem join_eq_intercalate (separator : Text) (parts : List Text) :
    join separator parts = separator.intercalate parts := by
  induction parts with
  | nil => rfl
  | cons part rest ih =>
    cases rest with
    | nil => simp [join]
    | cons next rest => rw [join, ih, List.intercalate_cons_cons]

theorem pieces_join {separator : Char} {parts : List Text} (nonempty : parts ≠ [])
    (free : ∀ part ∈ parts, separator ∉ part) :
    pieces separator (join [separator] parts) = parts := by
  rw [pieces_eq_splitOn, join_eq_intercalate]
  exact List.splitOn_intercalate separator free nonempty

theorem join_cons (separator part : Text) (rest : List Text) :
    join separator (part :: rest) =
      part ++ if rest = [] then [] else separator ++ join separator rest := by
  cases rest with
  | nil => simp [join]
  | cons next rest => simp [join]

theorem join_cons_eq_flatMap (separator part : Text) (rest : List Text) :
    join separator (part :: rest) = part ++ rest.flatMap (separator ++ ·) := by
  induction rest generalizing part with
  | nil => simp [join]
  | cons next rest ih => rw [join, ih, List.flatMap_cons, List.append_assoc, List.append_assoc]

theorem mem_join {separator : Text} {parts : List Text} {c : Char}
    (member : c ∈ join separator parts) : c ∈ separator ∨ ∃ part ∈ parts, c ∈ part := by
  induction parts with
  | nil => cases member
  | cons part rest ih =>
    rw [join_cons] at member
    rcases List.mem_append.mp member with inPart | later
    · exact .inr ⟨part, List.mem_cons_self, inPart⟩
    · split at later
      · cases later
      · rcases List.mem_append.mp later with between | inRest
        · exact .inl between
        · obtain inSeparator | ⟨other, among, inOther⟩ := ih inRest
          · exact .inl inSeparator
          · exact .inr ⟨other, List.mem_cons_of_mem _ among, inOther⟩

theorem not_mem_join {c separator : Char} (other : c ≠ separator) {parts : List Text}
    (free : ∀ part ∈ parts, c ∉ part) : c ∉ join [separator] parts := by
  intro inside
  obtain between | ⟨part, among, inPart⟩ := mem_join inside
  · exact other (List.mem_singleton.mp between)
  · exact free part among inPart

theorem mem_join_of_mem {separator : Text} {part : Text} {parts : List Text} {c : Char}
    (among : part ∈ parts) (inside : c ∈ part) : c ∈ join separator parts := by
  induction parts with
  | nil => cases among
  | cons first rest ih =>
    rw [join_cons]
    obtain rfl | later := List.mem_cons.mp among
    · exact List.mem_append_left _ inside
    · rw [if_neg (List.ne_nil_of_mem later)]
      exact List.mem_append_right _ (List.mem_append_right _ (ih later))

theorem getLast_suffix_join (separator : Text) {parts : List Text} (nonempty : parts ≠ []) :
    parts.getLast nonempty <:+ join separator parts := by
  induction parts with
  | nil => exact absurd rfl nonempty
  | cons part rest ih =>
    cases rest with
    | nil => exact List.suffix_refl _
    | cons next rest =>
      rw [List.getLast_cons_cons, join, List.append_assoc]
      have inRest := ih (List.cons_ne_nil _ _)
      exact inRest.trans (List.suffix_append_of_suffix (List.suffix_append _ _))

theorem cut?_append {separator : Char} {before : Text} (free : separator ∉ before) (after : Text) :
    cut? separator (before ++ separator :: after) = some (before, after) := by
  induction before with
  | nil => simp [cut?]
  | cons c rest ih =>
    obtain ⟨other, free⟩ := not_or.mp (List.mem_cons.not.mp free)
    simp [cut?, Ne.symm other, ih free]

theorem eq_append_of_cut? {separator : Char} {text before after : Text}
    (cut : cut? separator text = some (before, after)) : text = before ++ separator :: after := by
  induction text generalizing before with
  | nil => cases cut
  | cons c rest ih =>
    rw [cut?] at cut
    split at cut
    next here =>
      cases cut
      rw [here]
      rfl
    next =>
      obtain ⟨⟨front, back⟩, found, same⟩ := Option.map_eq_some_iff.mp cut
      cases same
      rw [ih found]
      rfl

theorem cut?_eq_none {separator : Char} {text : Text} (free : separator ∉ text) :
    cut? separator text = none := by
  induction text with
  | nil => rfl
  | cons c rest ih =>
    obtain ⟨other, free⟩ := not_or.mp (List.mem_cons.not.mp free)
    simp [cut?, Ne.symm other, ih free]

/-- A scan runs up to the first character outside its class. -/
theorem scan_iff {p : Char → Bool} {text run rest : Text} :
    text.takeWhile p = run ∧ text.dropWhile p = rest ↔
      text = run ++ rest ∧ (∀ c ∈ run, p c = true) ∧ ∀ c ∈ rest.head?, p c = false := by
  constructor
  · rintro ⟨rfl, rfl⟩
    refine ⟨List.takeWhile_append_dropWhile.symm, fun c inRun => List.mem_takeWhile_imp inRun, ?_⟩
    intro c opens
    have stop := List.head?_dropWhile_not p text
    rw [Option.mem_def.mp opens] at stop
    exact stop
  · rintro ⟨rfl, inside, stop⟩
    rw [List.takeWhile_append_of_pos inside, List.dropWhile_append_of_pos inside]
    cases rest with
    | nil => simp
    | cons c rest => simp [stop c rfl]

theorem scanTo_iff {mark : Char} {text run rest : Text} :
    text.takeWhile (· ≠ mark) = run ∧ text.dropWhile (· ≠ mark) = rest ↔
      text = run ++ rest ∧ mark ∉ run ∧ ∀ c ∈ rest.head?, c = mark := by
  have free : (∀ c ∈ run, decide (c ≠ mark) = true) ↔ mark ∉ run := by
    simp only [decide_eq_true_eq]
    exact ⟨fun differ member => differ mark member rfl, fun free c member same => free (same ▸ member)⟩
  rw [scan_iff, free]
  simp only [decide_eq_false_iff_not, not_not]

theorem afterLast_eq_iff {separator : Char} {text last : Text} :
    afterLast separator text = last ↔
      separator ∉ last ∧ ∃ lead, text = lead ++ last ∧ ∀ c ∈ lead.getLast?, c = separator := by
  constructor
  · rintro rfl
    obtain ⟨joined, free, stop⟩ :=
      scanTo_iff.mp (And.intro (rfl : text.reverse.takeWhile (· ≠ separator) = _) rfl)
    refine ⟨List.mem_reverse.not.mpr free, (text.reverse.dropWhile (· ≠ separator)).reverse, ?_, ?_⟩
    · rw [afterLast, ← List.reverse_append, ← joined, List.reverse_reverse]
    · simpa using stop
  · rintro ⟨free, lead, rfl, ends⟩
    have turned : (lead ++ last).reverse = last.reverse ++ lead.reverse := List.reverse_append
    obtain ⟨scanned, _⟩ := scanTo_iff.mpr
      ⟨turned, List.mem_reverse.not.mpr free, by simpa using ends⟩
    rw [afterLast, scanned, List.reverse_reverse]

theorem infix_of_infix_append_cons {separator : Char} {part before after : Text}
    (free : separator ∉ part) (inside : part <:+: before ++ separator :: after) :
    part <:+: before ∨ part <:+: after := by
  obtain inBefore | inAfter | ⟨front, back, rfl, ends, opens⟩ := List.infix_append_iff.mp inside
  · exact .inl inBefore
  · obtain opens | inAfter := List.infix_cons_iff.mp inAfter
    · cases part with
      | nil => exact .inl List.nil_infix
      | cons c rest =>
        obtain ⟨rfl, _⟩ := List.cons_prefix_cons.mp opens
        exact absurd List.mem_cons_self free
    · exact .inr inAfter
  · cases back with
    | nil =>
      rw [List.append_nil]
      exact .inl ends.isInfix
    | cons c rest =>
      obtain ⟨rfl, _⟩ := List.cons_prefix_cons.mp opens
      exact absurd (List.mem_append_right _ List.mem_cons_self) free

theorem infix_of_infix_append_left {part lead rest : Text} (filled : part ≠ [])
    (free : ∀ c ∈ lead, c ∉ part) (inside : part <:+: lead ++ rest) : part <:+: rest := by
  obtain rfl | ⟨front, c, rfl⟩ := List.eq_nil_or_concat' lead
  · exact inside
  · rw [List.append_assoc, List.singleton_append] at inside
    obtain inFront | behind := infix_of_infix_append_cons (free c (by simp)) inside
    · obtain ⟨d, inPart⟩ := List.exists_mem_of_ne_nil part filled
      exact absurd inPart (free d (List.mem_append_left _ (inFront.subset inPart)))
    · exact behind

theorem infix_of_infix_append_right {part front tail : Text} (filled : part ≠ [])
    (free : ∀ c ∈ tail, c ∉ part) (inside : part <:+: front ++ tail) : part <:+: front := by
  cases tail with
  | nil => rwa [List.append_nil] at inside
  | cons c rest =>
    obtain before | inRest := infix_of_infix_append_cons (free c List.mem_cons_self) inside
    · exact before
    · obtain ⟨d, inPart⟩ := List.exists_mem_of_ne_nil part filled
      exact absurd inPart (free d (List.mem_cons_of_mem _ (inRest.subset inPart)))

theorem isPrefixOf?_eq_none {lead text : Text} (other : ¬ lead <+: text) :
    lead.isPrefixOf? text = none := by
  apply Option.eq_none_iff_forall_ne_some.mpr
  intro rest found
  exact other ⟨rest, List.isPrefixOf?_eq_some_iff_append_eq.mp found⟩

theorem isSuffixOf?_eq_none {tail text : Text} (other : ¬ tail <:+ text) :
    tail.isSuffixOf? text = none := by
  apply Option.eq_none_iff_forall_ne_some.mpr
  intro rest found
  exact other ⟨rest, List.isSuffixOf?_eq_some_iff_append_eq.mp found⟩

theorem isPrefixOf?_singleton_cons {c other : Char} (differ : c ≠ other) (rest : Text) :
    [other].isPrefixOf? (c :: rest) = none := by
  apply isPrefixOf?_eq_none
  simp [differ.symm]

/-- Whether a text starts so is known before the first character that does not belong to the start. -/
theorem isPrefixOf?_append_cons {separator : Char} {lead : Text} (free : separator ∉ lead)
    (before after : Text) : lead.isPrefixOf? (before ++ separator :: after) =
      (lead.isPrefixOf? before).map (· ++ separator :: after) := by
  induction lead generalizing before with
  | nil => simp only [List.isPrefixOf?, Option.map_some]
  | cons c rest ih =>
    obtain ⟨differ, free⟩ := List.ne_and_not_mem_of_not_mem_cons free
    cases before with
    | nil => simp [List.isPrefixOf?, differ.symm]
    | cons d before =>
      simp only [List.cons_append, List.isPrefixOf?]
      split
      · exact ih free before
      · rfl

theorem prefix_append_cons_iff {separator : Char} {lead : Text} (free : separator ∉ lead)
    (before after : Text) : lead <+: before ++ separator :: after ↔ lead <+: before := by
  have known (text : Text) : lead <+: text ↔ (lead.isPrefixOf? text).isSome = true := by
    simp only [List.IsPrefix, Option.isSome_iff_exists, List.isPrefixOf?_eq_some_iff_append_eq]
  rw [known, known, isPrefixOf?_append_cons free, Option.isSome_map]

theorem dropLead_append_cons {separator : Char} {lead : Text} (free : separator ∉ lead)
    (before after : Text) : dropLead (before ++ separator :: after) lead =
      dropLead before lead ++ separator :: after := by
  unfold dropLead
  rw [isPrefixOf?_append_cons free]
  cases lead.isPrefixOf? before <;> rfl

theorem isSuffixOf?_singleton_eq_none {c : Char} {text : Text} (other : text.getLast? ≠ some c) :
    [c].isSuffixOf? text = none := by
  apply isSuffixOf?_eq_none
  rintro ⟨before, rfl⟩
  exact other List.getLast?_concat

theorem isSuffixOf?_singleton_concat {c other : Char} (differ : c ≠ other) (before : Text) :
    [other].isSuffixOf? (before ++ [c]) = none := by
  apply isSuffixOf?_singleton_eq_none
  rw [List.getLast?_concat]
  exact fun same => differ (Option.some.inj same)

theorem dropLead_append (lead text : Text) : dropLead (lead ++ text) lead = text := by
  rw [dropLead, List.isPrefixOf?_eq_some_iff_append_eq.mpr rfl, Option.getD_some]

theorem dropLead_eq_self {lead text : Text} (other : ¬ lead <+: text) :
    dropLead text lead = text := by
  rw [dropLead, isPrefixOf?_eq_none other, Option.getD_none]

theorem dropLead_singleton_cons {c other : Char} (differ : c ≠ other) (rest : Text) :
    dropLead (c :: rest) [other] = c :: rest := by
  rw [dropLead, isPrefixOf?_singleton_cons differ, Option.getD_none]

theorem dropLead_singleton_cases (text : Text) (lead : Char) :
    text.dropLead [lead] = text ∨ text = lead :: text.dropLead [lead] := by
  cases text with
  | nil => exact .inl rfl
  | cons c rest =>
    by_cases same : c = lead
    · subst same
      exact .inr (congrArg (c :: ·) (dropLead_append [c] rest).symm)
    · exact .inl (dropLead_singleton_cons same rest)

theorem dropTail_singleton_concat {c other : Char} (differ : c ≠ other) (before : Text) :
    dropTail (before ++ [c]) [other] = before ++ [c] := by
  rw [dropTail, isSuffixOf?_singleton_concat differ, Option.getD_none]

theorem dropEndWhile_concat {p : Char → Bool} (text : Text) {c : Char}
    (kept : p c = false) : dropEndWhile p (text ++ [c]) = text ++ [c] := by
  simp [dropEndWhile, kept]

theorem trimStart_append_cons {c : Char} (solid : isBlank c = false) (front tail : Text) :
    trimStart (front ++ c :: tail) = trimStart front ++ c :: tail := by
  unfold trimStart
  rw [List.dropWhile_append]
  split
  next blank =>
    rw [List.isEmpty_iff.mp blank, List.dropWhile_cons_of_neg (by simp [solid])]
    rfl
  next => rfl

theorem trimEnd_append_cons {c : Char} (solid : isBlank c = false) (front tail : Text) :
    trimEnd (front ++ c :: tail) = front ++ c :: trimEnd tail := by
  have turned : (front ++ c :: tail).reverse = tail.reverse ++ c :: front.reverse := by simp
  have trimmed := trimStart_append_cons solid tail.reverse front.reverse
  unfold trimStart at trimmed
  simp only [trimEnd, dropEndWhile, turned, trimmed, List.reverse_append, List.reverse_cons,
    List.reverse_reverse, List.append_assoc, List.singleton_append]

/-- A character that is no white space keeps apart what is trimmed on its two sides. -/
theorem trim_append_cons {c : Char} (solid : isBlank c = false) (front tail : Text) :
    trim (front ++ c :: tail) = trimStart front ++ c :: trimEnd tail := by
  rw [trim, trimStart_append_cons solid, trimEnd_append_cons solid]

/-- No white space stands at either end. -/
structure SolidAtEnds (text : Text) : Prop where
  start : ∀ c ∈ text.head?, isBlank c = false
  stop : ∀ c ∈ text.getLast?, isBlank c = false

theorem exists_trimEnd_append (text : Text) :
    ∃ tail, text = trimEnd text ++ tail ∧ (∀ c ∈ tail, isBlank c = true) ∧
      ∀ c ∈ (trimEnd text).getLast?, isBlank c = false := by
  obtain ⟨turned, blank, ends⟩ :=
    scan_iff.mp (And.intro (rfl : text.reverse.takeWhile isBlank = _) rfl)
  refine ⟨(text.reverse.takeWhile isBlank).reverse, ?_, ?_, ?_⟩
  · rw [trimEnd, dropEndWhile, ← List.reverse_append, ← turned, List.reverse_reverse]
  · exact fun c among => blank c (List.mem_reverse.mp among)
  · rwa [trimEnd, dropEndWhile, List.getLast?_reverse]

/-- Trimming takes all white space off both ends and nothing else. -/
theorem trim_eq_iff {text middle : Text} :
    trim text = middle ↔ ∃ lead tail, text = lead ++ middle ++ tail ∧
      (∀ c ∈ lead, isBlank c = true) ∧ (∀ c ∈ tail, isBlank c = true) ∧ SolidAtEnds middle := by
  constructor
  · rintro rfl
    obtain ⟨whole, blankLead, opens⟩ :=
      scan_iff.mp (And.intro (rfl : text.takeWhile isBlank = _) (rfl : _ = trimStart text))
    obtain ⟨tail, cut, blankTail, ends⟩ := exists_trimEnd_append (trimStart text)
    refine ⟨_, tail, ?_, blankLead, blankTail, ?_, ends⟩
    · conv_lhs => rw [whole, cut]
      exact (List.append_assoc ..).symm
    · intro c first
      apply opens
      rw [cut, List.head?_append, show (trimEnd (trimStart text)).head? = some c from first]
      rfl
  · rintro ⟨lead, tail, rfl, blankLead, blankTail, opens, ends⟩
    by_cases empty : middle = []
    · have blank : ∀ c ∈ lead ++ tail, isBlank c = true := fun c among =>
        (List.mem_append.mp among).elim (blankLead c) (blankTail c)
      rw [empty, List.append_nil, trim, trimStart, List.dropWhile_eq_nil_iff.mpr blank]
      rfl
    · have start : trimStart (lead ++ middle ++ tail) = middle ++ tail := by
        refine (scan_iff.mpr ⟨List.append_assoc .., blankLead, ?_⟩).2
        rwa [List.head?_append_of_ne_nil _ empty]
      have turned : (middle ++ tail).reverse = tail.reverse ++ middle.reverse :=
        List.reverse_append
      have stop : (middle ++ tail).reverse.dropWhile isBlank = middle.reverse := by
        refine (scan_iff.mpr ⟨turned, ?_, ?_⟩).2
        · exact fun c among => blankTail c (List.mem_reverse.mp among)
        · rwa [List.head?_reverse]
      rw [trim, start, trimEnd, dropEndWhile, stop, List.reverse_reverse]

theorem trim_eq_self_iff {text : Text} : trim text = text ↔ SolidAtEnds text := by
  constructor
  · intro same
    obtain ⟨_, _, _, _, _, solid⟩ := trim_eq_iff.mp same
    exact solid
  · intro solid
    exact trim_eq_iff.mpr ⟨[], [], by simp, nofun, nofun, solid⟩

theorem SolidAtEnds.of_solid {text : Text} (solid : ∀ c ∈ text, isBlank c = false) :
    SolidAtEnds text where
  start c first := solid c (List.mem_of_head? first)
  stop c last := solid c (List.mem_of_getLast? last)

theorem trim_eq_self {text : Text} (solid : ∀ c ∈ text, isBlank c = false) : trim text = text :=
  trim_eq_self_iff.mpr (.of_solid solid)

theorem trimEnd_eq_self {text : Text} (stop : ∀ c ∈ text.getLast?, isBlank c = false) :
    trimEnd text = text := by
  obtain rfl | ⟨front, c, rfl⟩ := List.eq_nil_or_concat' text
  · rfl
  · exact dropEndWhile_concat front (stop c List.getLast?_concat)

theorem trim_append_blank (text : Text) {tail : Text} (blank : ∀ c ∈ tail, isBlank c = true) :
    trim (text ++ tail) = trim text := by
  obtain ⟨lead, rest, whole, blankLead, blankRest, solid⟩ := trim_eq_iff.mp (rfl : trim text = _)
  refine trim_eq_iff.mpr ⟨lead, rest ++ tail, ?_, blankLead, ?_, solid⟩
  · rw [← List.append_assoc, ← whole]
  · exact fun c among => (List.mem_append.mp among).elim (blankRest c) (blank c)

theorem trim_trimEnd (text : Text) : trim (trimEnd text) = trim text := by
  obtain ⟨tail, whole, blank, _⟩ := exists_trimEnd_append text
  conv_rhs => rw [whole]
  exact (trim_append_blank _ blank).symm

theorem getLast?_trim (text : Text) : (trim text).getLast? = (trimEnd text).getLast? := by
  obtain ⟨_, _, _, stop⟩ := exists_trimEnd_append text
  rw [← trim_trimEnd text]
  obtain empty | ⟨front, c, shape⟩ := List.eq_nil_or_concat' (trimEnd text)
  · rw [empty]
    rfl
  · rw [shape] at stop ⊢
    rw [trim_append_cons (stop c List.getLast?_concat) front [], List.getLast?_concat]
    exact List.getLast?_concat

theorem getLast?_append_cons_ne {c other : Char} (differ : other ≠ c) {tail : Text}
    (ends : tail.getLast? ≠ some c) (front : Text) : (front ++ other :: tail).getLast? ≠ some c := by
  rw [List.getLast?_append, List.getLast?_cons]
  cases last : tail.getLast? with
  | none => simpa using differ
  | some d => simpa [last] using ends

theorem getLast?_trimEnd_join {c separator : Char} (solid : isBlank separator = false)
    (other : separator ≠ c) {parts : List Text}
    (ends : ∀ part ∈ parts, (trim part).getLast? ≠ some c) :
    (trimEnd (join [separator] parts)).getLast? ≠ some c := by
  induction parts with
  | nil => nofun
  | cons part rest ih =>
    obtain ⟨here, later⟩ := List.forall_mem_cons.mp ends
    rw [join_cons]
    split
    · rwa [List.append_nil, ← getLast?_trim]
    · rw [List.singleton_append, trimEnd_append_cons solid]
      exact getLast?_append_cons_ne other (ih later) part

theorem trim_trim (text : Text) : trim (trim text) = trim text := by
  obtain ⟨_, _, _, _, _, solid⟩ := trim_eq_iff.mp (rfl : trim text = _)
  exact trim_eq_self_iff.mpr solid

theorem pieces_of_not_mem {separator : Char} {text : Text} (free : separator ∉ text) :
    pieces separator text = [text] :=
  pieces_join (List.cons_ne_nil _ _) (List.forall_mem_singleton.mpr free)

/-- Where the parts of a text are trimmed, white space behind the text belongs to the last of them. -/
theorem map_trim_pieces_trimEnd {separator : Char} (solid : isBlank separator = false) (text : Text) :
    ((trimEnd text).pieces separator).map trim = (text.pieces separator).map trim := by
  have single {text : Text} (free : separator ∉ text) :
      ((trimEnd text).pieces separator).map trim = (text.pieces separator).map trim := by
    have freeTrimmed : separator ∉ trimEnd text := by
      obtain ⟨tail, whole, _⟩ := exists_trimEnd_append text
      exact fun inside => free (whole ▸ List.mem_append_left tail inside)
    rw [pieces_of_not_mem free, pieces_of_not_mem freeTrimmed, List.map_singleton,
      List.map_singleton, trim_trimEnd]
  by_cases inside : separator ∈ text
  · obtain ⟨after, before, turned, free⟩ := List.eq_append_cons_of_mem (List.mem_reverse.mpr inside)
    have whole : text = before.reverse ++ separator :: after.reverse := by
      rw [← List.reverse_reverse text, turned]
      simp
    rw [whole, trimEnd_append_cons solid, pieces_append_separator, pieces_append_separator,
      List.map_append, List.map_append, single (List.mem_reverse.not.mpr free)]
  · exact single inside

/-- Trimming leaves every part of a text that has no white space. -/
theorem infix_trim_iff {part : Text} (filled : part ≠ []) (solid : ∀ c ∈ part, isBlank c = false)
    {text : Text} : part <:+: trim text ↔ part <:+: text := by
  obtain ⟨lead, tail, whole, blankLead, blankTail, _⟩ := trim_eq_iff.mp (rfl : trim text = _)
  have free {blanks : Text} (blank : ∀ c ∈ blanks, isBlank c = true) : ∀ c ∈ blanks, c ∉ part := by
    intro c among inPart
    have both := solid c inPart
    rw [blank c among] at both
    cases both
  constructor
  · intro inside
    rw [whole]
    exact inside.trans ⟨lead, tail, rfl⟩
  · intro inside
    rw [whole, List.append_assoc] at inside
    exact infix_of_infix_append_right filled (free blankTail)
      (infix_of_infix_append_left filled (free blankLead) inside)

/-- Where a filter keeps white space, trimming once more afterwards makes the trimming before it
needless. -/
theorem trim_filter {p : Char → Bool} (keeps : ∀ c, isBlank c = true → p c = true) (text : Text) :
    trim (text.filter p) = trim ((trim text).filter p) := by
  obtain ⟨lead, tail, whole, blankLead, blankTail, _⟩ := trim_eq_iff.mp (rfl : trim text = _)
  obtain ⟨first, last, inner, blankFirst, blankLast, solid⟩ :=
    trim_eq_iff.mp (rfl : trim ((trim text).filter p) = _)
  have keptLead : lead.filter p = lead :=
    List.filter_eq_self.mpr fun c among => keeps c (blankLead c among)
  have keptTail : tail.filter p = tail :=
    List.filter_eq_self.mpr fun c among => keeps c (blankTail c among)
  refine trim_eq_iff.mpr ⟨lead ++ first, last ++ tail, ?_, ?_, ?_, solid⟩
  · conv_lhs => rw [whole, List.filter_append, List.filter_append, keptLead, keptTail, inner]
    simp only [List.append_assoc]
  · exact fun c among => (List.mem_append.mp among).elim (blankLead c) (blankFirst c)
  · exact fun c among => (List.mem_append.mp among).elim (blankLast c) (blankTail c)

end FilterList.Text
