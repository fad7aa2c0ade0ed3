import FilterList.Regex.Escape

/-! Reading a source between parentheses goes along with reading it by itself. What a reader makes
of a part of the source it makes of it with the closing after it, and it is then as far as before,
unless the source ends in a comment, which takes the closing in. Where it fails by itself it fails
there too, or it has begun to read the closing. -/

namespace FilterList.Regex
open Unicode

/-- What stands after a source that is read for whole texts. -/
def closing : Text := [')', '$']

/-- How far reading is, in the source by itself and in the source with the closing after it. -/
inductive Level (source : Text) : Text → Text → Prop where
  | inside {c rest} (part : c :: rest <:+ source) :
      Level source (c :: rest) (c :: (rest ++ closing))
  | ahead : Level source [] closing
  /-- A comment at the end of the source has taken in the closing. -/
  | swallowed (comment : '#' ∈ source) : Level source [] []

namespace Level
variable {source own whole : Text}

theorem ofSuffix {text : Text} (part : text <:+ source) : Level source text (text ++ closing) := by
  cases text with
  | nil => exact .ahead
  | cons c rest => exact .inside part

theorem rest {c : Char} {rest : Text} (part : c :: rest <:+ source) :
    Level source rest (rest ++ closing) :=
  ofSuffix ((List.suffix_cons c rest).trans part)

theorem mono {wider : Text} (level : Level source own whole) (part : source <:+ wider) :
    Level wider own whole := by
  cases level with
  | inside inner => exact .inside (inner.trans part)
  | ahead => exact .ahead
  | swallowed comment => exact .swallowed (part.subset comment)

theorem length_le (level : Level source own whole) : own.length ≤ whole.length := by
  cases level <;> simp

theorem suffix (level : Level source own whole) : own <:+ source := by
  cases level with
  | inside part => exact part
  | ahead => exact List.nil_suffix
  | swallowed _ => exact List.nil_suffix

theorem dropInsignificant {text : Text} (part : text <:+ source) {inComment : Bool}
    (opened : inComment = true → '#' ∈ source) :
    Level source (dropInsignificant inComment text)
      (dropInsignificant inComment (text ++ closing)) := by
  induction text generalizing inComment with
  | nil =>
    cases inComment with
    | true => exact .swallowed (opened rfl)
    | false => exact .ahead
  | cons c text ih =>
    have later : text <:+ source := (List.suffix_cons c text).trans part
    rw [List.cons_append, Regex.dropInsignificant, Regex.dropInsignificant]
    split
    · next comment => exact ih later fun _ => opened comment
    split
    · exact ih later (by simp)
    split
    · next hash =>
      exact ih later fun _ => hash ▸ part.subset List.mem_cons_self
    · exact .inside part

theorem skip (mode : Mode) (level : Level source own whole) :
    Level source (mode.skip own) (mode.skip whole) := by
  unfold Mode.skip
  split
  · cases level with
    | inside part => exact dropInsignificant part (by simp)
    | ahead => exact .ahead
    | swallowed comment => exact .swallowed comment
  · exact level

/-- Collecting stops at the same character in the source, or goes on into the closing. -/
private theorem collect_append (mode : Mode) (p : Char → Bool) (inComment : Bool) (text : Text) :
    (∃ found c rest, c :: rest <:+ text ∧ mode.collect p inComment text = (found, c :: rest) ∧
      mode.collect p inComment (text ++ closing) = (found, c :: (rest ++ closing))) ∨
    ∃ found comment, (comment = true → inComment = true ∨ '#' ∈ text) ∧
      mode.collect p inComment text = (found, []) ∧
      mode.collect p inComment (text ++ closing) =
        (found ++ (mode.collect p comment closing).1, (mode.collect p comment closing).2) := by
  induction text generalizing inComment with
  | nil => exact .inr ⟨[], inComment, .inl, rfl, rfl⟩
  | cons c text ih =>
    -- What the rest of the text comes to, once the first character is passed over.
    have pass (later : Bool) (opened : later = true → inComment = true ∨ '#' ∈ c :: text) :
        (∃ found d rest, d :: rest <:+ c :: text ∧ mode.collect p later text = (found, d :: rest) ∧
          mode.collect p later (text ++ closing) = (found, d :: (rest ++ closing))) ∨
        ∃ found comment, (comment = true → inComment = true ∨ '#' ∈ c :: text) ∧
          mode.collect p later text = (found, []) ∧
          mode.collect p later (text ++ closing) =
            (found ++ (mode.collect p comment closing).1, (mode.collect p comment closing).2) := by
      obtain ⟨found, d, rest, part, here, there⟩ | ⟨found, comment, from_, here, there⟩ := ih later
      · exact .inl ⟨found, d, rest, part.trans (List.suffix_cons c text), here, there⟩
      · refine .inr ⟨found, comment, fun isComment => ?_, here, there⟩
        exact (from_ isComment).elim opened fun hash => .inr (List.mem_cons_of_mem c hash)
    rw [List.cons_append, Mode.collect, Mode.collect]
    split
    · next comment => exact pass _ fun _ => .inl comment
    split
    · exact pass false (by simp)
    split
    · next hash =>
      have hash : c = '#' := of_decide_eq_true (Bool.and_eq_true_iff.mp hash).2
      exact pass true fun _ => .inr (hash ▸ List.mem_cons_self)
    split
    · obtain ⟨found, d, rest, part, here, there⟩ | ⟨found, comment, opened, here, there⟩ :=
        pass false (by simp)
      · exact .inl ⟨c :: found, d, rest, part, by rw [here], by rw [there]⟩
      · exact .inr ⟨c :: found, comment, opened, by rw [here], by rw [there]; rfl⟩
    · exact .inl ⟨[], c, text, List.suffix_rfl, rfl, rfl⟩

/-- Characters that the closing does not begin with are collected alike. -/
theorem collect (mode : Mode) {p : Char → Bool} (refused : p ')' = false)
    (level : Level source own whole) :
    ∃ found ownRest wholeRest, mode.collect p false own = (found, ownRest) ∧
      mode.collect p false whole = (found, wholeRest) ∧ Level source ownRest wholeRest := by
  have stops : mode.collect p false closing = ([], closing) := by
    cases verbose : mode.verbose <;> simp [closing, Mode.collect, verbose, refused, Text.isBlank]
  cases level with
  | @inside c rest part =>
    obtain ⟨found, d, rest, later, here, there⟩ | ⟨found, comment, opened, here, there⟩ :=
      collect_append mode p false (c :: rest)
    · exact ⟨found, _, _, here, there, .inside (later.trans part)⟩
    · cases comment with
      | true =>
        have hash := (opened rfl).resolve_left (by simp)
        refine ⟨found, [], [], here, ?_, .swallowed (part.subset hash)⟩
        simpa [closing, Mode.collect] using there
      | false =>
        rw [stops, List.append_nil] at there
        exact ⟨found, [], closing, here, there, .ahead⟩
  | ahead => exact ⟨[], [], closing, rfl, stops, .ahead⟩
  | swallowed comment => exact ⟨[], [], [], rfl, rfl, .swallowed comment⟩

/-- Characters that the closing consists of are collected to the end of it, unless one in the source
stops it. -/
theorem collect_through (mode : Mode) {p : Char → Bool} (taken : ∀ c ∈ closing, p c = true)
    (level : Level source own whole) :
    (∃ found c rest, c :: rest <:+ source ∧ mode.collect p false own = (found, c :: rest) ∧
      mode.collect p false whole = (found, c :: (rest ++ closing))) ∨
    ∃ found more, mode.collect p false own = (found, []) ∧
      mode.collect p false whole = (more, []) := by
  have ends (comment : Bool) : (mode.collect p comment closing).2 = [] := by
    have parenthesis := taken ')' (by simp [closing])
    have dollar := taken '$' (by simp [closing])
    cases comment <;> cases verbose : mode.verbose <;>
      simp [closing, Mode.collect, verbose, parenthesis, dollar, Text.isBlank]
  cases level with
  | @inside c rest part =>
    obtain ⟨found, d, rest, later, here, there⟩ | ⟨found, comment, _, here, there⟩ :=
      collect_append mode p false (c :: rest)
    · exact .inl ⟨found, d, rest, later.trans part, here, there⟩
    · rw [ends] at there
      exact .inr ⟨found, _, here, there⟩
  | ahead => exact .inr ⟨[], _, rfl, Prod.ext rfl (ends false)⟩
  | swallowed _ => exact .inr ⟨[], [], rfl, rfl⟩

end Level

/-- What a reader comes to in the source by itself and with the closing after it. Where it fails by
itself, `lost` says what may be read in the closing. -/
inductive Carried {α : Type} (source : Text) (lost : α → Text → Prop) :
    Except Fault (α × Text) → Except Fault (α × Text) → Prop where
  | read {value own whole} (level : Level source own whole) :
      Carried source lost (.ok (value, own)) (.ok (value, whole))
  | failed {fault other} : Carried source lost (.error fault) (.error other)
  | lost {fault value rest} (gone : lost value rest) :
      Carried source lost (.error fault) (.ok (value, rest))

def Never {α : Type} : α → Text → Prop := fun _ _ => False

def Within {α : Type} (limit : Text) : α → Text → Prop := fun _ rest => rest <:+ limit

namespace Carried
variable {α β γ : Type} {source : Text} {lost : α → Text → Prop} {gone : β → Text → Prop}

theorem bind {own whole : Except Fault (α × Text)}
    {next wholeNext : α × Text → Except Fault (β × Text)} (first : Carried source lost own whole)
    (further : ∀ value own whole, Level source own whole →
      Carried source gone (next (value, own)) (wholeNext (value, whole)))
    (after : ∀ value rest fault, lost value rest →
      Carried source gone (.error fault) (wholeNext (value, rest))) :
    Carried source gone (own >>= next) (whole >>= wholeNext) := by
  cases first with
  | read level => exact further _ _ _ level
  | failed => exact .failed
  | lost isLost => exact after _ _ _ isLost

/-- What goes before without reading anything is the same for both. -/
theorem bind_same {step : Except Fault γ} {own whole : γ → Except Fault (β × Text)}
    (further : ∀ value, Carried source gone (own value) (whole value)) :
    Carried source gone (step >>= own) (step >>= whole) := by
  cases step with
  | error fault => exact .failed
  | ok value => exact further value

theorem error_bind {fault : Fault} {step : Except Fault γ} {whole : γ → Except Fault (β × Text)}
    (further : ∀ value, Carried source gone (.error fault) (whole value)) :
    Carried source gone (.error fault) (step >>= whole) := by
  cases step with
  | error _ => exact .failed
  | ok value => exact further value

/-- A reader that has failed by itself may do what `lost` allows. -/
theorem of_error {fault : Fault} {whole : Except Fault (α × Text)}
    (allowed : ∀ value rest, whole = .ok (value, rest) → lost value rest) :
    Carried source lost (.error fault) whole := by
  cases whole with
  | error other => exact .failed
  | ok result => exact .lost (allowed _ _ rfl)

theorem mono {own whole : Except Fault (α × Text)} {wider : α → Text → Prop}
    (carried : Carried source lost own whole)
    (imp : ∀ value rest, lost value rest → wider value rest) : Carried source wider own whole := by
  cases carried with
  | read level => exact .read level
  | failed => exact .failed
  | lost isLost => exact .lost (imp _ _ isLost)

theorem widen {own whole : Except Fault (α × Text)} {wider : Text}
    (carried : Carried source lost own whole) (part : source <:+ wider) :
    Carried wider lost own whole := by
  cases carried with
  | read level => exact .read (level.mono part)
  | failed => exact .failed
  | lost isLost => exact .lost isLost

end Carried

theorem cut?_append_closing {separator : Char} (other : separator ∉ closing) (text : Text) :
    Text.cut? separator (text ++ closing) =
      (Text.cut? separator text).map fun (before, after) => (before, after ++ closing) := by
  induction text with
  | nil =>
    simp only [closing, List.mem_cons, List.not_mem_nil, or_false, not_or] at other
    simp [closing, Text.cut?, Ne.symm other.1, Ne.symm other.2]
  | cons c text ih =>
    rw [List.cons_append, Text.cut?, Text.cut?, ih]
    split
    · rfl
    · cases Text.cut? separator text <;> rfl

theorem dropWhile_append_closing {p : Char → Bool} (refused : p ')' = false) (text : Text) :
    (text ++ closing).dropWhile p = text.dropWhile p ++ closing := by
  induction text with
  | nil => simp [closing, refused]
  | cons c text ih => simp only [List.cons_append, List.dropWhile_cons, ih]; split <;> rfl

section Escapes
variable (mode : Mode) {source own whole : Text}

theorem readHexDigits_carried (count : Nat) (level : Level source own whole) :
    Carried source Never (readHexDigits mode count own) (readHexDigits mode count whole) := by
  induction count generalizing own whole with
  | zero => exact .read level
  | succ count ih =>
    cases level with
    | @inside c rest part =>
      rw [readHexDigits, readHexDigits]
      split
      · exact (ih ((Level.rest part).skip mode)).bind (fun _ _ _ level => .read level)
          fun _ _ _ gone => gone.elim
      · exact .failed
    | ahead => exact .failed
    | swallowed _ => exact .failed

theorem readHex_carried {width : Nat} (positive : width ≠ 0) (level : Level source own whole) :
    Carried source Never (readHex mode width own) (readHex mode width whole) := by
  have digits {own whole : Text} (level : Level source own whole) :
      Carried source (α := Atom) Never
        (do let (digits, rest) ← readHexDigits mode width own
            return (.literal (← charOfHex digits) (width == 2), rest))
        (do let (digits, rest) ← readHexDigits mode width whole
            return (.literal (← charOfHex digits) (width == 2), rest)) :=
    (readHexDigits_carried mode width level).bind
      (fun _ _ _ level => .bind_same fun _ => .read level) fun _ _ _ gone => gone.elim
  unfold readHex
  have level := level.skip mode
  generalize mode.skip own = own at level ⊢
  generalize mode.skip whole = whole at level ⊢
  cases level with
  | @inside c rest part =>
    by_cases brace : c = '{'
    · subst brace
      obtain ⟨found, ownRest, wholeRest, here, there, level⟩ :=
        (Level.rest part).collect mode (p := isHexDigit) (by decide)
      simp only [here, there]
      cases level with
      | @inside d rest part =>
        by_cases close : d = '}'
        · subst close
          exact .bind_same fun _ => .read ((Level.rest part).skip mode)
        · simpa [close] using Carried.failed
      | ahead => exact .failed
      | swallowed _ => exact .failed
    · simpa [brace] using digits (.inside part)
  | ahead =>
    obtain ⟨count, rfl⟩ := Nat.exists_eq_succ_of_ne_zero positive
    exact .failed
  | swallowed _ => exact .failed

theorem skip_suffix (text : Text) : mode.skip text <:+ text :=
  ((Level.ofSuffix (List.suffix_refl text)).skip mode).suffix

theorem skip_cons {c : Char} (significant : (Text.isBlank c || c == '#') = false) (rest : Text) :
    mode.skip (c :: rest) = c :: rest := by
  obtain ⟨notBlank, notHash⟩ := Bool.or_eq_false_iff.mp significant
  cases verbose : mode.verbose <;>
    simp [Mode.skip, verbose, dropInsignificant, notBlank, beq_eq_false_iff_ne.mp notHash]

theorem suffix_dollar {rest : Text} (part : rest <:+ ['$']) : rest = [] ∨ rest = ['$'] := by
  simpa [List.suffix_cons_iff, or_comm] using part

theorem suffix_closing {rest : Text} (part : rest <:+ closing) :
    rest = [] ∨ rest = ['$'] ∨ rest = closing := by
  simpa [closing, List.suffix_cons_iff, or_comm, or_assoc] using part

/-- Nothing in the closing is passed over. -/
theorem skip_closing {rest : Text} (part : rest <:+ closing) : mode.skip rest = rest := by
  obtain rfl | rfl | rfl := suffix_closing part
  · exact List.suffix_nil.mp (skip_suffix mode [])
  · exact skip_cons mode (by decide) []
  · exact skip_cons mode (by decide) ['$']

theorem readProperty_carried (negated : Bool) (level : Level source own whole) :
    Carried source (Within ['$']) (readProperty mode negated own)
      (readProperty mode negated whole) := by
  unfold readProperty
  have level := level.skip mode
  generalize mode.skip own = own at level ⊢
  generalize mode.skip whole = whole at level ⊢
  cases level with
  | @inside c rest part =>
    by_cases brace : c = '{'
    · subst brace
      obtain ⟨found, d, rest, part, here, there⟩ | ⟨found, more, here, there⟩ :=
        (Level.rest part).collect_through mode (p := (· ≠ '}')) (by simp [closing])
      · simp only [here, there]
        exact .bind_same fun _ => .read (Level.rest part)
      · simp only [here, there]
        exact .failed
    · have single : Carried source (α := Atom) (Within ['$'])
          (if c = '\\' then .error .unknownProperty
            else do return (.charSet (← propertySet mode (.letter c) negated), mode.skip rest))
          (if c = '\\' then .error .unknownProperty
            else do return (.charSet (← propertySet mode (.letter c) negated),
              mode.skip (rest ++ closing))) := by
        split
        · exact .failed
        · exact .bind_same fun _ => .read ((Level.rest part).skip mode)
      simpa [brace] using single
  | ahead =>
    apply Carried.of_error
    intro value rest result
    cases set : propertySet mode (.letter ')') negated with
    | error fault => simp [closing, set, Bind.bind, Except.bind] at result
    | ok found =>
      simp [closing, set, Bind.bind, Except.bind, pure, Except.pure] at result
      exact result.2 ▸ skip_suffix mode ['$']
  | swallowed _ => exact .failed

/-- A brace after a word boundary that has nothing but blanks before the closing. -/
def Unfinished (mode : Mode) (rest : Text) : Prop :=
  ∃ inner, rest = '{' :: (inner ++ closing) ∧ mode.skip inner = []

theorem readBoundary_carried (level : Level source own whole) :
    Carried source (fun _ => Unfinished mode) (readBoundary mode own)
      (readBoundary mode whole) := by
  cases level with
  | @inside c rest part =>
    by_cases brace : c = '{'
    · subst brace
      have level := (Level.rest part).skip mode
      simp only [readBoundary]
      generalize inner : mode.skip rest = own at level ⊢
      generalize mode.skip (rest ++ closing) = whole at level ⊢
      cases level with
      | @inside d rest' part' =>
        dsimp only
        split
        · next isName =>
          obtain ⟨found, ownRest, wholeRest, here, there, level⟩ :=
            (Level.inside part').collect mode (p := readBoundary.isNameChar) (by decide)
          simp only [here, there]
          cases level with
          | @inside e rest part =>
            by_cases close : e = '}'
            · subst close
              split
              · next same =>
                cases same
                split
                · exact .read (Level.rest part)
                · exact .read (Level.rest part)
                · exact .read (Level.rest part)
                · exact .read (Level.rest part)
                · exact .failed
              · next other => exact absurd rfl (other found rest)
            · simpa [close] using Carried.failed
          | ahead => exact .failed
          | swallowed _ => exact .failed
        · exact .read (.inside part)
      | ahead => exact .lost ⟨rest, rfl, inner⟩
      | swallowed _ => exact .failed
    · have stays (text : Text) : readBoundary mode (c :: text) = .ok (.either, c :: text) := by
        simp [readBoundary, brace]
      rw [stays, stays]
      exact .read (.inside part)
  | ahead => exact .read .ahead
  | swallowed comment => exact .read (.swallowed comment)

/-- What an escape sequence that is cut short may be in the closing: its parenthesis with a meaning
of its own, or a boundary before an unfinished brace. -/
def CutShort (mode : Mode) (atom : Atom) (rest : Text) : Prop :=
  rest <:+ ['$'] ∨ (∃ condition, atom = .assertion condition) ∧ Unfinished mode rest

theorem readEscape_carried (level : Level source own whole) :
    Carried source (CutShort mode) (readEscape mode own) (readEscape mode whole) := by
  cases level with
  | @inside c rest part =>
    have level := Level.rest part
    have hex (width : Nat) (positive : width ≠ 0) :
        Carried source (CutShort mode) (readHex mode width rest)
          (readHex mode width (rest ++ closing)) :=
      (readHex_carried mode positive level).mono fun _ _ never => never.elim
    have property (negated : Bool) :
        Carried source (CutShort mode) (readProperty mode negated rest)
          (readProperty mode negated (rest ++ closing)) :=
      (readProperty_carried mode negated level).mono fun _ _ => .inl
    unfold readEscape
    dsimp only
    split
    · exact hex 2 (by decide)
    · exact hex 4 (by decide)
    · exact hex 8 (by decide)
    · exact property false
    · exact property true
    -- Classes, characters and conditions of one letter have nothing more to read.
    all_goals try exact .bind_same fun _ => .read level
    all_goals try exact .read level
    · refine (readBoundary_carried mode level).bind (fun _ _ _ level => .read level) ?_
      intro edge rest fault unfinished
      exact .lost (.inr ⟨⟨_, rfl⟩, unfinished⟩)
    · split
      · exact .failed
      · split
        · exact .read level
        · exact .failed
  | ahead => exact .lost (.inl (List.suffix_refl _))
  | swallowed _ => exact .failed

end Escapes

end FilterList.Regex
