import FilterList.Proofs.RuleParts
import FilterList.Proofs.TextSlices

/-! A rule is cut into its pattern and its options at one dollar sign, and nothing but that sign is
lost. The place is found as a position in bytes; it always lies between two characters of the rule, so
both slices can be taken. -/

namespace FilterList

namespace Text

def position? (part : Text) : Text → Option Nat
  | [] => if part.isEmpty then some 0 else none
  | c :: rest =>
    if part.isPrefixOf (c :: rest) then some 0 else (position? part rest).map (c.utf8Size + ·)

def lastPosition? (part : Text) : Text → Option Nat
  | [] => if part.isEmpty then some 0 else none
  | c :: rest =>
    match lastPosition? part rest with
    | some position => some (c.utf8Size + position)
    | none => if part.isPrefixOf (c :: rest) then some 0 else none

theorem position?_of_not_mem {c : Char} {text : Text} (free : c ∉ text) :
    position? [c] text = none := by
  induction text with
  | nil => rfl
  | cons d rest ih =>
    obtain ⟨other, free⟩ := not_or.mp (List.mem_cons.not.mp free)
    simp [position?, List.isPrefixOf, other, ih free]

theorem position?_append {c : Char} {before : Text} (free : c ∉ before) (after : Text) :
    position? [c] (before ++ c :: after) = some before.utf8Length := by
  induction before with
  | nil => simp [position?, List.isPrefixOf, utf8Length]
  | cons d rest ih =>
    obtain ⟨other, free⟩ := not_or.mp (List.mem_cons.not.mp free)
    simp [position?, List.isPrefixOf, other, ih free, utf8Length]

theorem lastPosition?_eq_none_iff {part text : Text} :
    lastPosition? part text = none ↔ ¬ part <:+: text := by
  induction text with
  | nil => simp [lastPosition?]
  | cons c rest ih =>
    rw [lastPosition?, List.infix_cons_iff, not_or, ← ih]
    cases lastPosition? part rest with
    | some position => simp
    | none => simp [List.isPrefixOf_iff_prefix]

/-- The place is the last one where the part begins in no character further on. -/
theorem lastPosition?_append {c : Char} {part after : Text} (last : ¬ c :: part <:+: part ++ after)
    (before : Text) :
    lastPosition? (c :: part) (before ++ c :: part ++ after) = some before.utf8Length := by
  induction before with
  | nil =>
    have opens : (c :: part).isPrefixOf (c :: (part ++ after)) = true :=
      List.isPrefixOf_iff_prefix.mpr (List.prefix_append (c :: part) after)
    simp [lastPosition?, lastPosition?_eq_none_iff.mpr last, opens, utf8Length]
  | cons d rest ih =>
    rw [List.cons_append, List.cons_append, lastPosition?, ih]
    rfl

end Text

namespace Rule

def slicesAt? (entry : Text) (stop start : Nat) : Option (Text × Option Text) := do
  let pattern ← entry.slice? 0 stop
  let options ← entry.slice? start entry.utf8Length
  return (pattern, some options)

/-- The cut of a rule by positions in bytes. There would be none where a position lay inside a
character or behind the end. -/
def splitOptionsAt? (entry : Text) : Option (Text × Option Text) :=
  if entry.head? == some '/' && entry.contains '\\' then
    match Text.lastPosition? "/$".toList entry with
    | some position => if 0 < position then slicesAt? entry (position + 1) (position + 2) else unslashed
    | none => unslashed
  else atFirstDollar
where
  unslashed : Option (Text × Option Text) :=
    if 1 < entry.utf8Length && entry.getLast? == some '/' then some (entry, none) else atFirstDollar
  atFirstDollar : Option (Text × Option Text) :=
    match Text.position? ['$'] entry with
    | some position => slicesAt? entry position (position + 1)
    | none => some (entry, none)

theorem slicesAt?_append (pattern options : Text) :
    slicesAt? (pattern ++ '$' :: options) pattern.utf8Length (pattern.utf8Length + 1) =
      some (pattern, some options) := by
  have front : Text.slice? (pattern ++ '$' :: options) 0 pattern.utf8Length = some pattern :=
    Text.slice?_eq_some_iff.mpr ⟨[], '$' :: options, rfl, rfl, (Nat.zero_add _).symm⟩
  have back : Text.slice? (pattern ++ '$' :: options) (pattern.utf8Length + 1)
      (Text.utf8Length (pattern ++ '$' :: options)) = some options := by
    refine Text.slice?_eq_some_iff.mpr ⟨pattern ++ ['$'], [], by simp, ?_, ?_⟩
    · rw [Text.utf8Length_append]
      rfl
    · rw [Text.utf8Length_append, Nat.add_assoc]
      rfl
  rw [slicesAt?, front, back]
  rfl

theorem atFirstDollar_of_not_mem {entry : Text} (free : '$' ∉ entry) :
    splitOptions.atFirstDollar entry = (entry, none) := by
  rw [splitOptions.atFirstDollar, Text.cut?_eq_none free]

theorem atFirstDollar_append {pattern : Text} (free : '$' ∉ pattern) (options : Text) :
    splitOptions.atFirstDollar (pattern ++ '$' :: options) = (pattern, some options) := by
  rw [splitOptions.atFirstDollar, Text.cut?_append free]

theorem dollar_not_mem_atFirstDollar (entry : Text) :
    '$' ∉ (splitOptions.atFirstDollar entry).1 := by
  by_cases inside : '$' ∈ entry
  · obtain ⟨pattern, options, rfl, free⟩ := List.eq_append_cons_of_mem inside
    rwa [atFirstDollar_append free]
  · rwa [atFirstDollar_of_not_mem inside]

theorem atFirstDollar_at (entry : Text) :
    splitOptionsAt?.atFirstDollar entry = some (splitOptions.atFirstDollar entry) := by
  by_cases inside : '$' ∈ entry
  · obtain ⟨pattern, options, rfl, free⟩ := List.eq_append_cons_of_mem inside
    rw [splitOptionsAt?.atFirstDollar, Text.position?_append free, atFirstDollar_append free]
    exact slicesAt?_append pattern options
  · rw [splitOptionsAt?.atFirstDollar, Text.position?_of_not_mem inside,
      atFirstDollar_of_not_mem inside]

theorem unslashed_at {entry : Text} (escaped : '\\' ∈ entry) :
    splitOptionsAt?.unslashed entry =
      some (if entry.length > 1 && entry.getLast? == some '/' then (entry, none)
        else splitOptions.atFirstDollar entry) := by
  unfold splitOptionsAt?.unslashed
  by_cases closed : entry.getLast? = some '/'
  · obtain ⟨front, rfl⟩ := List.getLast?_eq_some_iff.mp closed
    have filled : front ≠ [] := by
      rintro rfl
      simp at escaped
    have long : 1 < (front ++ ['/']).length := by
      have := List.length_pos_of_ne_nil filled
      simpa
    have longBytes : 1 < Text.utf8Length (front ++ ['/']) := by
      have := Text.utf8Length_pos filled
      rw [Text.utf8Length_append]
      exact Nat.add_lt_add_right this 1
    simp only [closed, long, longBytes, decide_true, beq_self_eq_true, Bool.and_self,
      if_true]
  · have unclosed : (entry.getLast? == some '/') = false := beq_eq_false_iff_ne.mpr closed
    simp only [unclosed, Bool.and_false, Bool.false_eq_true, if_false]
    exact atFirstDollar_at entry

theorem lastPosition?_slash_dollar {options : Text} (last : ¬ "/$".toList <:+: options) (body : Text) :
    Text.lastPosition? "/$".toList (body ++ '/' :: '$' :: options) = some body.utf8Length := by
  have noLater : ¬ ['/', '$'] <:+: ['$'] ++ options := by
    rw [List.singleton_append, List.infix_cons_iff, not_or]
    exact ⟨by simp, last⟩
  have found := Text.lastPosition?_append noLater body
  rw [List.append_assoc] at found
  exact found

theorem slicesAt?_slash (body options : Text) :
    slicesAt? (body ++ '/' :: '$' :: options) (body.utf8Length + 1) (body.utf8Length + 2) =
      some (body ++ ['/'], some options) := by
  have sliced := slicesAt?_append (body ++ ['/']) options
  rw [Text.utf8Length_append, List.append_assoc] at sliced
  exact sliced

/-- Every position that a rule is cut at lies between two of its characters, and the slices are the
pattern and the options. -/
theorem splitOptionsAt?_eq (entry : Text) : splitOptionsAt? entry = some (splitOptions entry) := by
  unfold splitOptionsAt? splitOptions
  split
  next slashes =>
    have escaped : '\\' ∈ entry := by simpa using (Bool.and_eq_true_iff.mp slashes).2
    by_cases inside : "/$".toList <:+: entry
    · obtain ⟨body, options, rfl, last⟩ := exists_last_slash_dollar inside
      have cut : cutLastSlashDollar? (body ++ '/' :: '$' :: options) = some (body ++ ['/'], options) :=
        cutLastSlashDollar?_eq_some_iff.mpr ⟨by simp, ⟨body, rfl⟩, last⟩
      rw [cut, lastPosition?_slash_dollar last, Option.filter_some]
      dsimp only
      cases body with
      | nil => exact unslashed_at escaped
      | cons c front =>
        have opened : 0 < Text.utf8Length (c :: front) := Text.utf8Length_pos (List.cons_ne_nil _ _)
        have long : (c :: front ++ ['/']).length > 1 := by simp
        rw [if_pos opened, if_pos (decide_eq_true long)]
        exact slicesAt?_slash (c :: front) options
    · rw [cutLastSlashDollar?_eq_none_iff.mpr inside, Text.lastPosition?_eq_none_iff.mpr inside]
      exact unslashed_at escaped
  next => exact atFirstDollar_at entry

/-- A rule is its pattern alone, or its pattern and its options with a dollar sign between them. The
first dollar sign cuts it, unless a slash opens the rule and there is a backslash: then it is the last
one behind a slash, where there is one behind more than the opening slash. All positions that
are cut at lie between two characters of the rule. -/
theorem splitOptions_lossless (entry : Text) :
    (∀ options, (splitOptions entry).2 = some options →
      (splitOptions entry).1 ++ '$' :: options = entry) ∧
    ((splitOptions entry).2 = none → (splitOptions entry).1 = entry) ∧
    (entry.head? ≠ some '/' ∨ '\\' ∉ entry → '$' ∉ (splitOptions entry).1) ∧
    (∀ body options, entry = '/' :: body ++ '/' :: '$' :: options → '\\' ∈ entry →
      ¬ "/$".toList <:+: options → splitOptions entry = ('/' :: body ++ ['/'], some options)) ∧
    splitOptionsAt? entry = some (splitOptions entry) := by
  refine ⟨?_, ?_, ?_, ?_, splitOptionsAt?_eq entry⟩
  · intro options given
    rcases splitOptions_cases entry with whole | ⟨pattern, others, cut, shape⟩
    · rw [whole] at given
      cases given
    · rw [cut] at given ⊢
      cases given
      exact shape.symm
  · intro none
    rcases splitOptions_cases entry with whole | ⟨pattern, options, cut, _⟩
    · rw [whole]
    · rw [cut] at none
      cases none
  · intro unslashed
    have plain : ¬ (entry.head? == some '/' && entry.contains '\\') = true := by
      simpa [or_iff_not_imp_left] using unslashed
    rw [splitOptions, if_neg plain]
    exact dollar_not_mem_atFirstDollar entry
  · rintro body options rfl escaped last
    apply splitOptions_slashes _ last
    simpa using escaped

theorem splitOptions_lossless_of_accents :
    let entry := "/é/$\\d/$ü$é".toList
    let plain := "/é/$d/$ü$é".toList
    splitOptions entry = ("/é/$\\d/".toList, some "ü$é".toList) ∧
    "/é/$\\d/".toList ++ '$' :: "ü$é".toList = entry ∧
    splitOptionsAt? entry = some ("/é/$\\d/".toList, some "ü$é".toList) ∧
    '$' ∉ (splitOptions plain).1 ∧ (splitOptions ['/']).1 = ['/'] := by
  intro entry plain
  obtain ⟨joined, _, _, slashes, sliced⟩ := splitOptions_lossless entry
  have cut : splitOptions entry = ("/é/$\\d/".toList, some "ü$é".toList) :=
    slashes "é/$\\d".toList "ü$é".toList rfl (by decide) (by decide)
  rw [cut] at joined sliced
  exact ⟨cut, joined _ rfl, sliced, (splitOptions_lossless plain).2.2.1 (.inr (by decide)),
    (splitOptions_lossless ['/']).2.1 rfl⟩

end Rule

end FilterList
