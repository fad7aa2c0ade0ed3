import FilterList.Proofs.ClassContinuation
import FilterList.Regex.Read
import FilterList.UrlPattern

/-! A source is read within a pattern as it is by itself: the reader goes through the same states
there, with one more group open. Only a parenthesis that closes no group of the source closes that
group, and only a comment at the end of the source keeps the closing from being read. -/

namespace FilterList.Regex
open Unicode

namespace Level
variable {source own whole : Text}

theorem trimStart (level : Level source own whole) :
    Level source (Text.trimStart own) (Text.trimStart whole) := by
  cases level with
  | @inside c rest part =>
    have later := dropWhile_append_closing (p := Text.isBlank) (by decide) (c :: rest)
    rw [List.cons_append] at later
    rw [Text.trimStart, Text.trimStart, later]
    exact .ofSuffix ((List.dropWhile_suffix _).trans part)
  | ahead => exact .ahead
  | swallowed comment => exact .swallowed comment

theorem dropReluctance (level : Level source own whole) :
    Level source (dropReluctance own) (dropReluctance whole) := by
  cases level with
  | @inside c rest part =>
    by_cases mark : c = '?'
    · subst mark
      exact .rest part
    · have stays (text : Text) : Regex.dropReluctance (c :: text) = c :: text := by
        simp [Regex.dropReluctance, Text.dropLead, List.isPrefixOf?, Ne.symm mark]
      rw [stays, stays]
      exact .inside part
  | ahead => exact .ahead
  | swallowed comment => exact .swallowed comment

end Level

section Parts
variable (mode : Mode) {source own whole : Text} {γ : Type} {gone : γ → Text → Prop}

theorem readDecimal_carried (level : Level source own whole) :
    Carried source Never (readDecimal mode own) (readDecimal mode whole) := by
  obtain ⟨digits, ownRest, wholeRest, here, there, level⟩ :=
    level.trimStart.collect mode (p := Char.isDigit) (by decide)
  unfold readDecimal
  simp only [here, there]
  split
  · exact .read level.trimStart
  split
  · exact .read level.trimStart
  · exact .failed

/-- The number that is the upper bound of a counted repetition. -/
def readMost (least : Nat) (text : Text) : Except Fault (Nat × Option Nat × Text) := do
  let (most?, rest) ← readDecimal mode text
  let some most := most? | throw .badCount
  match rest with
  | '}' :: rest =>
    if least ≤ most then return (least, some most, mode.skip rest) else throw .badCount
  | _ => throw .unclosedCount

/-- The upper bound of a counted repetition, from after its comma. -/
def readUpper (least : Nat) (text : Text) : Except Fault (Nat × Option Nat × Text) :=
  match mode.skip text with
  | '}' :: rest => return (least, none, mode.skip rest)
  | rest => readMost mode least rest

theorem readCount_eq (text : Text) :
    readCount mode text = (do
      let (least?, rest) ← readDecimal mode (mode.skip text)
      let some least := least? | throw .badCount
      match rest with
      | '}' :: rest => return (least, some least, mode.skip rest)
      | ',' :: rest => readUpper mode least rest
      | _ => throw .unclosedCount) := rfl

section Counts
variable {next : Nat × Option Nat × Text → Except Fault (γ × Text)}
  (further : ∀ least most own whole, Level source own whole →
    Carried source gone (next (least, most, own)) (next (least, most, whole)))
include further

theorem readMost_carried (least : Nat) (level : Level source own whole) :
    Carried source gone (readMost mode least own >>= next)
      (readMost mode least whole >>= next) := by
  have unfinished (fault : Fault) :
      Carried source gone (throw fault >>= next) (throw fault >>= next) := .failed
  unfold readMost
  rw [bind_assoc, bind_assoc]
  refine (readDecimal_carried mode level).bind ?_ fun _ _ _ never => never.elim
  intro most own whole level
  cases most with
  | none => exact .failed
  | some most =>
    cases level with
    | @inside c rest part =>
      by_cases close : c = '}'
      · subst close
        by_cases ordered : least ≤ most
        · simpa [ordered] using further _ _ _ _ ((Level.rest part).skip mode)
        · simpa [ordered] using unfinished .badCount
      · simpa [close] using unfinished .unclosedCount
    | ahead => exact .failed
    | swallowed _ => exact .failed

theorem readUpper_carried (least : Nat) (level : Level source own whole) :
    Carried source gone (readUpper mode least own >>= next)
      (readUpper mode least whole >>= next) := by
  have level := level.skip mode
  have most := readMost_carried mode further least level
  unfold readUpper
  generalize mode.skip own = own at level most ⊢
  generalize mode.skip whole = whole at level most ⊢
  cases level with
  | @inside c rest part =>
    by_cases close : c = '}'
    · subst close
      exact further _ _ _ _ ((Level.rest part).skip mode)
    · simpa [close] using most
  | ahead => exact most
  | swallowed _ => exact most

theorem readCount_carried (level : Level source own whole) :
    Carried source gone (readCount mode own >>= next) (readCount mode whole >>= next) := by
  have unfinished : Carried source gone (throw Fault.unclosedCount >>= next)
      (throw Fault.unclosedCount >>= next) := .failed
  rw [readCount_eq, readCount_eq, bind_assoc, bind_assoc]
  refine (readDecimal_carried mode (level.skip mode)).bind ?_ fun _ _ _ never => never.elim
  intro least own whole level
  cases least with
  | none => exact .failed
  | some least =>
    cases level with
    | @inside c rest part =>
      by_cases close : c = '}'
      · subst close
        exact further _ _ _ _ ((Level.rest part).skip mode)
      by_cases comma : c = ','
      · subst comma
        exact readUpper_carried mode further least (Level.rest part)
      · simpa [close, comma] using unfinished
    | ahead => exact .failed
    | swallowed _ => exact .failed

end Counts

theorem readCount_unfinished {inner : Text} (nothing : mode.skip inner = []) :
    readCount mode (inner ++ closing) = .error .badCount := by
  have level := (Level.ofSuffix (List.suffix_refl inner)).skip mode
  rw [nothing] at level
  unfold readCount
  generalize mode.skip (inner ++ closing) = whole at level ⊢
  have decimal : Carried inner Never (.ok (none, [])) (readDecimal mode whole) :=
    readDecimal_carried mode level
  generalize readDecimal mode whole = read at decimal
  cases decimal
  rfl

/-- The closing may end the flags that a source leaves open. -/
theorem readFlags_carried {mode : Mode}
    {next : Mode × List Char × Char × Text → Except Fault (γ × Text)}
    (further : ∀ mode seen stop own whole, Level source own whole →
      Carried source gone (next (mode, seen, stop, own)) (next (mode, seen, stop, whole)))
    (after : ∀ mode seen fault, Carried source gone (.error fault) (next (mode, seen, ')', ['$'])))
    {text : Text} (part : text <:+ source) (on : Bool) (seen : List Char) :
    Carried source gone (readFlags mode on seen text >>= next)
      (readFlags mode on seen (text ++ closing) >>= next) := by
  induction text generalizing mode on seen with
  | nil =>
    change Carried source gone (.error _)
      ((if seen.head? == some '-' then .error .badFlags else .ok (mode, seen, ')', ['$'])) >>= next)
    split
    · exact .failed
    · exact after mode seen _
  | cons c rest ih =>
    have later : rest <:+ source := (List.suffix_cons c rest).trans part
    rw [List.cons_append, readFlags, readFlags]
    split
    · split
      · exact .failed
      · exact further _ _ _ _ _ (.ofSuffix later)
    split
    · exact .failed
    split
    · exact ih later _ _
    cases mode.set? c on with
    | none => exact .failed
    | some mode => exact ih later _ _

theorem readName_carried (level : Level source own whole) :
    Carried source Never (readName own) (readName whole) := by
  have named {text : Text} (part : text <:+ source) :
      Carried source Never (readName text) (readName (text ++ closing)) := by
    unfold readName
    rw [cut?_append_closing (by decide)]
    cases found : Text.cut? '>' text with
    | none => exact .failed
    | some parts =>
      obtain ⟨name, rest⟩ := parts
      dsimp only [Option.map_some]
      split
      · rw [Text.eq_append_of_cut? found] at part
        exact .read (.ofSuffix ((List.suffix_cons '>' rest).trans
          ((List.suffix_append name _).trans part)))
      · exact .failed
  cases level with
  | inside part => exact named part
  | ahead => exact .failed
  | swallowed _ => exact .failed

end Parts

namespace Reader
variable {source own whole : Text}

theorem openNamed_carried (reader : Reader) (level : Level source own whole) :
    Carried source Never (reader.openNamed own) (reader.openNamed whole) := by
  refine (readName_carried level).bind ?_ fun _ _ _ never => never.elim
  intro name own whole level
  dsimp only
  split
  · exact .failed
  · exact .read level

/-- What flags after an opening parenthesis begin. -/
def openFlagged (reader : Reader) (text : Text) : Except Fault (Reader × Text) := do
  let (mode, seen, stop, rest) ← readFlags reader.mode true [] text
  if stop == ':' then return (reader.openGroup mode, rest)
  else if seen.isEmpty then throw .nothingToRepeat
  else
    let branches := { reader.branches with items := none :: reader.branches.items }
    return ({ reader with branches, mode }, rest)

theorem readOpening_eq (reader : Reader) (text : Text) :
    reader.readOpening text =
      match reader.mode.skip text with
      | '?' :: '=' :: _ | '?' :: '!' :: _ | '?' :: '<' :: '=' :: _ | '?' :: '<' :: '!' :: _ =>
        .error .lookAround
      | '?' :: 'P' :: '<' :: rest | '?' :: '<' :: rest => reader.openNamed rest
      | '?' :: rest => reader.openFlagged rest
      | rest => .ok (reader.openGroup reader.mode, rest) := rfl

theorem openFlagged_carried (reader : Reader) {text : Text} (part : text <:+ source) :
    Carried source (Within ['$']) (reader.openFlagged text)
      (reader.openFlagged (text ++ closing)) := by
  refine readFlags_carried ?_ ?_ part true []
  · intro mode seen stop own whole level
    dsimp only
    split
    · exact .read level
    split
    · exact .failed
    · exact .read level
  · intro mode seen fault
    cases seen with
    | nil => exact .failed
    | cons flag seen => exact .lost List.suffix_rfl

theorem readOpening_carried (reader : Reader) (level : Level source own whole) :
    Carried source (Within ['$']) (reader.readOpening own) (reader.readOpening whole) := by
  rw [readOpening_eq, readOpening_eq]
  have level := level.skip reader.mode
  generalize reader.mode.skip own = own at level ⊢
  generalize reader.mode.skip whole = whole at level ⊢
  cases level with
  | @inside c rest part =>
    have named {text : Text} (part : text <:+ source) :
        Carried source (Within ['$']) (reader.openNamed text)
          (reader.openNamed (text ++ closing)) :=
      (openNamed_carried reader (.ofSuffix part)).mono fun _ _ never => never.elim
    by_cases mark : c = '?'
    · subst mark
      have inner : rest <:+ source := (List.suffix_cons '?' rest).trans part
      have flags := openFlagged_carried reader inner
      cases rest with
      | nil => exact flags
      | cons d rest =>
        by_cases ahead : d = '='
        · subst ahead; exact .failed
        by_cases notAhead : d = '!'
        · subst notAhead; exact .failed
        have later : rest <:+ source := (List.suffix_cons d rest).trans inner
        by_cases bracket : d = '<'
        · subst bracket
          cases rest with
          | nil => exact named later
          | cons e rest =>
            by_cases behind : e = '='
            · subst behind; exact .failed
            by_cases notBehind : e = '!'
            · subst notBehind; exact .failed
            simpa [behind, notBehind] using named later
        by_cases letter : d = 'P'
        · subst letter
          cases rest with
          | nil => exact flags
          | cons e rest =>
            by_cases bracket : e = '<'
            · subst bracket
              exact named ((List.suffix_cons '<' rest).trans later)
            · simpa [bracket] using flags
        · simpa [ahead, notAhead, bracket, letter] using flags
    · simpa [mark] using Carried.read (.inside part)
  | ahead => exact .read .ahead
  | swallowed comment => exact .read (.swallowed comment)

/-- How the closing may have been read into: at most its end is left, or it stands after a brace. -/
def Stuck (reader : Reader) (rest : Text) : Prop := rest <:+ ['$'] ∨ Unfinished reader.mode rest

theorem step_carried (reader : Reader) (c : Char) (level : Level source own whole) :
    Carried source Stuck (reader.step c own) (reader.step c whole) := by
  unfold step
  split
  · exact (readOpening_carried reader level).mono fun _ _ => .inl
  · exact .bind_same fun _ => .read level
  · exact .read level
  · exact (Bracket.read_carried reader.mode level).bind (fun _ _ _ level => .read level)
      fun _ _ _ never => never.elim
  · exact .bind_same fun _ => .read level.dropReluctance
  · exact .bind_same fun _ => .read level.dropReluctance
  · exact .bind_same fun _ => .read level.dropReluctance
  · refine readCount_carried reader.mode ?_ level
    exact fun _ _ _ _ level => .bind_same fun _ => .read level.dropReluctance
  · exact .bind_same fun _ => .read level
  · exact .read level
  · exact .read level
  · refine (readEscape_carried reader.mode level).bind ?_ ?_
    · intro atom own whole level
      cases atom with
      | literal c byte => exact .bind_same fun _ => .read level
      | charSet set => exact .read level
      | assertion condition => exact .read level
    · rintro atom rest fault (dollar | ⟨⟨condition, rfl⟩, unfinished⟩)
      · cases atom with
        | literal c byte => exact .error_bind fun _ => .lost (.inl dollar)
        | charSet set => exact .lost (.inl dollar)
        | assertion condition => exact .lost (.inl dollar)
      · exact .lost (.inr unfinished)
  · exact .bind_same fun _ => .read level

/-- The reader inside one more group, which is around all others. -/
def within (reader : Reader) (group : OpenGroup) : Reader :=
  { reader with groups := reader.groups ++ [group] }

section Within
variable (reader : Reader) (group : OpenGroup)

@[simp] theorem within_mode : (reader.within group).mode = reader.mode := rfl

theorem return_within (result : Except Fault Reader) (rest : Text) :
    (do return (← result.map fun reader => reader.within group, rest) : Except Fault _) =
      (do return (← result, rest)).map fun ((reader : Reader), (rest : Text)) =>
        (reader.within group, rest) := by
  cases result <;> rfl

theorem repeatLast_within (least : Nat) (most : Option Nat) :
    (reader.within group).repeatLast least most =
      (reader.repeatLast least most).map (·.within group) := by
  obtain ⟨⟨items, earlier⟩, mode, groups, names⟩ := reader
  rcases items with _ | ⟨_ | expr, items⟩ <;> rfl

theorem literal_within (c : Char) (byte : Bool) :
    (reader.within group).literal c byte = (reader.literal c byte).map (·.within group) := by
  unfold literal
  dsimp only [within]
  split <;> rfl

theorem dot_within : (reader.within group).dot = reader.dot.map (·.within group) := by
  unfold dot
  dsimp only [within]
  split
  · rfl
  split
  · rfl
  split <;> rfl

theorem closeGroup_within (opened : reader.groups ≠ []) :
    (reader.within group).closeGroup = reader.closeGroup.map (·.within group) := by
  obtain ⟨branches, mode, groups, names⟩ := reader
  cases groups with
  | nil => exact absurd rfl opened
  | cons inner groups => rfl

theorem openNamed_within (text : Text) :
    (reader.within group).openNamed text =
      (reader.openNamed text).map fun (reader, rest) => (reader.within group, rest) := by
  unfold openNamed
  cases readName text with
  | error fault => rfl
  | ok name =>
    obtain ⟨name, rest⟩ := name
    change (if reader.names.contains name then _ else _) =
      Except.map _ (if reader.names.contains name then _ else _)
    split <;> rfl

theorem openFlagged_within (text : Text) :
    (reader.within group).openFlagged text =
      (reader.openFlagged text).map fun (reader, rest) => (reader.within group, rest) := by
  unfold openFlagged
  change (readFlags reader.mode true [] text >>= _) = _
  cases readFlags reader.mode true [] text with
  | error fault => rfl
  | ok flags =>
    obtain ⟨mode, seen, stop, rest⟩ := flags
    change (if stop == ':' then _ else if seen.isEmpty then _ else _) =
      Except.map _ (if stop == ':' then _ else if seen.isEmpty then _ else _)
    split
    · rfl
    split <;> rfl

theorem readOpening_within (text : Text) :
    (reader.within group).readOpening text =
      (reader.readOpening text).map fun (reader, rest) => (reader.within group, rest) := by
  rw [readOpening_eq, readOpening_eq]
  rw [within_mode]
  split
  · rfl
  · rfl
  · rfl
  · rfl
  · exact openNamed_within reader group _
  · exact openNamed_within reader group _
  · exact openFlagged_within reader group _
  · rfl

theorem step_within {c : Char} (text : Text) (opened : c = ')' → reader.groups ≠ []) :
    (reader.within group).step c text =
      (reader.step c text).map fun (reader, rest) => (reader.within group, rest) := by
  unfold step
  split
  · exact readOpening_within reader group text
  · rw [closeGroup_within reader group (opened rfl)]
    exact return_within group _ _
  · rfl
  · rw [within_mode]
    cases Bracket.read reader.mode text <;> rfl
  · rw [repeatLast_within]
    exact return_within group _ _
  · rw [repeatLast_within]
    exact return_within group _ _
  · rw [repeatLast_within]
    exact return_within group _ _
  · rw [within_mode]
    cases readCount reader.mode text with
    | error fault => rfl
    | ok count =>
      obtain ⟨least, most, rest⟩ := count
      have repeated := return_within group (reader.repeatLast least most) (dropReluctance rest)
      rw [← repeatLast_within] at repeated
      exact repeated
  · rw [dot_within]
    exact return_within group _ _
  · rfl
  · rfl
  · rw [within_mode]
    cases readEscape reader.mode text with
    | error fault => rfl
    | ok escape =>
      obtain ⟨atom, rest⟩ := escape
      cases atom with
      | literal c byte =>
        have added := return_within group (reader.literal c byte) rest
        rw [← literal_within] at added
        exact added
      | charSet set => rfl
      | assertion condition => rfl
  · rw [literal_within]
    exact return_within group _ _

end Within

theorem finish_open {reader : Reader} (opened : reader.groups ≠ []) :
    reader.finish = .error .unclosedGroup := by
  simp [finish, opened]

theorem finish_closed {reader : Reader} (closed : reader.groups = []) :
    reader.finish = .ok reader.branches.toExpr := by
  simp [finish, closed]

theorem run_nil (steps : Nat) (reader : Reader) : run steps reader [] = .ok reader := by
  cases steps with
  | zero => rfl
  | succ steps => rw [run, skip_closing reader.mode List.nil_suffix]

/-- Nothing that is left once the closing has been read into closes a group. -/
theorem run_stuck {reader : Reader} {rest : Text} (stuck : Stuck reader rest)
    (opened : reader.groups ≠ []) (steps : Nat) :
    ∃ fault, (run steps reader rest >>= finish) = .error fault := by
  have stays (reader : Reader) (opened : reader.groups ≠ []) :
      (Except.ok reader >>= finish) = .error .unclosedGroup := finish_open opened
  cases steps with
  | zero => exact ⟨_, stays reader opened⟩
  | succ steps =>
    obtain dollar | ⟨inner, rfl, nothing⟩ := stuck
    · obtain rfl | rfl := suffix_dollar dollar
      · rw [run_nil]
        exact ⟨_, stays reader opened⟩
      · rw [run, skip_closing reader.mode (List.suffix_cons ')' _)]
        change ∃ fault, (run steps reader.lineEnd [] >>= finish) = .error fault
        rw [run_nil]
        exact ⟨_, stays reader.lineEnd opened⟩
    · have skipped : reader.mode.skip ('{' :: (inner ++ closing)) = '{' :: (inner ++ closing) :=
        skip_cons reader.mode (by decide) _
      rw [run, skipped]
      refine ⟨.badCount, ?_⟩
      change (((readCount reader.mode (inner ++ closing) >>= _) >>= _) >>= _) = _
      rw [readCount_unfinished reader.mode nothing]
      rfl

/-- The whole run, by itself and inside a group that is around all others: it comes to the closing, or
past it in a comment, or it fails in both, if not for a parenthesis that closes no group. -/
theorem run_within (reader : Reader) (group : OpenGroup) {source own whole : Text} {n m : Nat}
    (level : Level source own whole) (enough : own.length ≤ n) (more : own.length + 2 ≤ m) :
    (∃ last k, run n reader own = .ok last ∧
      run m (reader.within group) whole = run (k + 2) (last.within group) closing) ∨
    ('#' ∈ source ∧ ∃ last, run n reader own = .ok last ∧
      run m (reader.within group) whole = .ok (last.within group)) ∨
    ∃ fault, run n reader own = .error fault ∧ (fault = .unopenedGroup ∨
      ∃ other, (run m (reader.within group) whole >>= finish) = .error other) := by
  induction n generalizing m own whole reader with
  | zero =>
    obtain ⟨k, rfl⟩ : ∃ k, m = k + 2 := ⟨m - 2, by omega⟩
    cases level with
    | inside part => simp at enough
    | ahead => exact .inl ⟨reader, k, rfl, rfl⟩
    | swallowed comment => exact .inr (.inl ⟨comment, reader, rfl, run_nil _ _⟩)
  | succ n ih =>
    obtain ⟨m, rfl⟩ : ∃ k, m = k + 2 := ⟨m - 2, by omega⟩
    have shorter := (skip_suffix reader.mode own).length_le
    have level := level.skip reader.mode
    generalize ownSkipped : reader.mode.skip own = ownLeft at level shorter
    generalize wholeSkipped : reader.mode.skip whole = wholeLeft at level
    cases level with
    | @inside c rest part =>
      rw [List.length_cons] at shorter
      rw [run, ownSkipped, run, within_mode, wholeSkipped]
      by_cases closes : c = ')' ∧ reader.groups = []
      · obtain ⟨rfl, none⟩ := closes
        have unopened : reader.closeGroup = .error .unopenedGroup := by rw [closeGroup, none]
        refine .inr (.inr ⟨.unopenedGroup, ?_, .inl rfl⟩)
        simp only [step, unopened]
        rfl
      have carried := step_carried reader c (.ofSuffix (List.suffix_refl rest))
      have opened : c = ')' → reader.groups ≠ [] := fun parenthesis none =>
        closes ⟨parenthesis, none⟩
      have stepped := step_within reader group (rest ++ closing) opened
      dsimp only
      rw [stepped]
      generalize reader.step c rest = ownStep at carried
      generalize reader.step c (rest ++ closing) = wholeStep at carried
      cases carried with
      | @read next own whole level =>
        have left : own.length ≤ rest.length := level.suffix.length_le
        have level := level.mono ((List.suffix_cons c rest).trans part)
        exact ih next level (Nat.le_trans left (by omega))
          (Nat.le_trans (Nat.add_le_add_right left 2) (by omega))
      | failed => exact .inr (.inr ⟨_, rfl, .inr ⟨_, rfl⟩⟩)
      | @lost fault next left stuck =>
        have isStuck : Stuck (next.within group) left := stuck
        exact .inr (.inr ⟨fault, rfl, .inr (run_stuck isStuck (by simp [within]) (m + 1))⟩)
    | ahead =>
      refine .inl ⟨reader, m, by rw [run, ownSkipped], ?_⟩
      rw [run, run, within_mode, wholeSkipped, skip_closing reader.mode List.suffix_rfl]
    | swallowed comment =>
      refine .inr (.inl ⟨comment, reader, by rw [run, ownSkipped], ?_⟩)
      rw [run, within_mode, wholeSkipped]

/-- The group that a source is read in, after the condition on the beginning of the text. -/
def around : OpenGroup := ⟨{ items := [some (.assertion .textStart)] }, {}⟩

theorem read_anchored (source : Text) :
    read (RegexLibrary.anchored source) =
      run (source.length + 4) (({} : Reader).within around) (source ++ closing) >>= finish := by
  have length : (RegexLibrary.anchored source).length = source.length + 4 + 2 := by
    simp [RegexLibrary.anchored]
  rw [read, length]
  rfl

/-- The closing ends the group around and asks for the end of the text. -/
theorem run_closing (reader : Reader) (steps : Nat) :
    (reader.groups = [] ∧ (run (steps + 2) (reader.within around) closing >>= finish) =
      .ok (.sequence [.assertion .textStart, reader.branches.toExpr, .assertion .textEnd])) ∨
    (reader.groups ≠ [] ∧
      ∃ fault, (run (steps + 2) (reader.within around) closing >>= finish) = .error fault) := by
  rw [run, within_mode, skip_closing reader.mode List.suffix_rfl]
  obtain ⟨branches, mode, groups, names⟩ := reader
  cases groups with
  | nil =>
    let last : Reader := ⟨around.around.add branches.toExpr, {}, [], names⟩
    refine .inl ⟨rfl, ?_⟩
    change (run steps last.lineEnd [] >>= finish) = _
    rw [run_nil]
    rfl
  | cons group groups =>
    refine .inr ⟨List.cons_ne_nil group groups, ?_⟩
    exact run_stuck (.inl List.suffix_rfl) (by simp) (steps + 1)

end Reader

/-- What a source comes to by itself, and what it comes to within the pattern. -/
theorem read_anchored_cases (source : Text) :
    (∃ expr, read source = .ok expr ∧
      (read (RegexLibrary.anchored source) =
          .ok (.sequence [.assertion .textStart, expr, .assertion .textEnd]) ∨
        '#' ∈ source ∧ ∃ fault, read (RegexLibrary.anchored source) = .error fault)) ∨
    ∃ fault, read source = .error fault ∧
      (fault = .unopenedGroup ∨ ∃ other, read (RegexLibrary.anchored source) = .error other) := by
  rw [Reader.read_anchored]
  have level : Level source source (source ++ closing) := .ofSuffix (List.suffix_refl source)
  obtain ⟨last, steps, own, whole⟩ | ⟨comment, last, own, whole⟩ | ⟨fault, own, whole⟩ :=
    Reader.run_within {} Reader.around level (Nat.le_refl source.length)
      (Nat.add_le_add_left (by decide : 2 ≤ 4) source.length)
  all_goals rw [read, own]
  · rw [whole]
    obtain ⟨closed, result⟩ | ⟨opened, fault, result⟩ := Reader.run_closing last steps
    · exact .inl ⟨last.branches.toExpr, Reader.finish_closed closed, .inl result⟩
    · exact .inr ⟨.unclosedGroup, Reader.finish_open opened, .inr ⟨fault, result⟩⟩
  · have failed : (last.within Reader.around).finish = .error .unclosedGroup :=
      Reader.finish_open (by simp [Reader.within])
    rw [whole]
    by_cases closed : last.groups = []
    · exact .inl ⟨last.branches.toExpr, Reader.finish_closed closed, .inr ⟨comment, _, failed⟩⟩
    · exact .inr ⟨.unclosedGroup, Reader.finish_open closed, .inr ⟨_, failed⟩⟩
  · exact .inr ⟨fault, rfl, whole⟩

end FilterList.Regex
