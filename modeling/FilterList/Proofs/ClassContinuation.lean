import FilterList.Proofs.RegexContinuation
import FilterList.Proofs.TextCutting
import FilterList.Regex.Bracket

/-! A class in brackets is read from a source as it is with the closing after it, and none that the
source leaves open ends in the closing: it holds no bracket. -/

namespace FilterList.Regex
open Unicode

namespace Bracket
variable (mode : Mode) {source own whole : Text} {γ : Type} {gone : γ → Text → Prop}

theorem readOpening_carried {next wholeNext : Bool × CharSet × Text → Except Fault (γ × Text)}
    (further : ∀ negated set own whole, Level source own whole →
      Carried source gone (next (negated, set, own)) (wholeNext (negated, set, whole)))
    (after : ∀ negated set rest fault, rest <:+ closing →
      Carried source gone (.error fault) (wholeNext (negated, set, rest)))
    (level : Level source own whole) :
    Carried source gone (readOpening mode own >>= next) (readOpening mode whole >>= wholeNext) := by
  unfold readOpening
  have level := level.skip mode
  generalize mode.skip own = own at level ⊢
  generalize mode.skip whole = whole at level ⊢
  cases level with
  | @inside c rest part =>
    have level : Level source (if c == '^' then mode.skip rest else c :: rest)
        (if c == '^' then mode.skip (rest ++ closing) else c :: (rest ++ closing)) := by
      split
      · exact (Level.rest part).skip mode
      · exact .inside part
    obtain ⟨hyphens, ownRest, wholeRest, here, there, level⟩ :=
      level.collect mode (p := (· == '-')) (by decide)
    simp only [here, there]
    cases level with
    | @inside d rest part =>
      by_cases close : d = ']'
      · subst close
        cases hyphens with
        | nil =>
          have level := (Level.rest part).skip mode
          simp only [List.isEmpty_nil, if_true]
          generalize mode.skip rest = own at level ⊢
          generalize mode.skip (rest ++ closing) = whole at level ⊢
          cases level with
          | inside part => exact further _ _ _ _ (.inside part)
          | ahead => exact after _ _ _ _ List.suffix_rfl
          | swallowed _ => exact .failed
        | cons _ _ => exact further _ _ _ _ (.inside part)
      · simpa [close] using further _ _ _ _ (.inside part)
    | ahead => exact after _ _ _ _ List.suffix_rfl
    | swallowed _ => exact .failed
  | ahead =>
    have stops : mode.collect (· == '-') false closing = ([], closing) := by
      simp [Mode.collect, closing, Text.isBlank]
    have plain : (')' == '^') = false := by decide
    simp only [closing, plain, Bool.false_eq_true, if_false] at stops ⊢
    simp only [stops]
    exact after _ _ _ _ List.suffix_rfl
  | swallowed _ => exact .failed

/-- The name of a class, from after its colon, is read alike. -/
theorem readNamed?_append (text : Text) :
    readNamed? mode (text ++ closing) =
      (readNamed? mode text).map fun (named, rest) => (named, rest ++ closing) := by
  cases text with
  | nil => rfl
  | cons c rest =>
    by_cases colon : c = ':'
    · subst colon
      have negated : ((rest ++ closing).head? == some '^') = (rest.head? == some '^') := by
        cases rest <;> rfl
      have name : (if rest.head? == some '^' then (rest ++ closing).tail else rest ++ closing) =
          (if rest.head? == some '^' then rest.tail else rest) ++ closing := by
        cases rest with
        | nil => rfl
        | cons d rest => split <;> rfl
      simp only [List.cons_append, readNamed?, negated, name,
        cut?_append_closing (by decide : ':' ∉ closing)]
      cases Text.cut? ':' (if rest.head? == some '^' then rest.tail else rest) with
      | none => rfl
      | some parts =>
        obtain ⟨name, after⟩ := parts
        cases after with
        | nil => rfl
        | cons d after =>
          by_cases close : d = ']'
          · subst close
            simp only [Option.map_some, List.cons_append, Option.map_map]
            rfl
          · simp [close]
    · simp [readNamed?, colon]

theorem readNamed?_suffix {text rest : Text} {named : Except Fault CharSet}
    (result : readNamed? mode text = some (named, rest)) : rest <:+ text := by
  unfold readNamed? at result
  split at result
  · next inner =>
    dsimp only at result
    split at result
    · next name after found =>
      obtain ⟨_, _, same⟩ := Option.map_eq_some_iff.mp result
      cases same
      have cut := Text.eq_append_of_cut? found
      have skipped : (if inner.head? == some '^' then inner.tail else inner) <:+ inner := by
        split
        · exact List.tail_suffix inner
        · exact List.suffix_rfl
      have after : rest <:+ name ++ ':' :: ']' :: rest :=
        List.suffix_append_of_suffix ((List.suffix_cons ']' rest).trans (List.suffix_cons ':' _))
      exact ((cut ▸ after).trans skipped).trans (List.suffix_cons ':' inner)
    · cases result
  · cases result

theorem peek_append {c : Char} (other : c ≠ ')') (text : Text) :
    (peek mode (text ++ closing) == some c) = (peek mode text == some c) := by
  have first (text : Text) : ((text ++ closing).head? == some c) = (text.head? == some c) := by
    cases text with
    | nil => simp [closing, Ne.symm other]
    | cons d text => rfl
  have later := dropWhile_append_closing (p := Text.isBlank) (by decide)
  unfold peek
  split
  · exact first text
  · rw [later]
    cases text.dropWhile Text.isBlank with
    | nil => exact first []
    | cons d rest =>
      by_cases hash : d = '#'
      · subst hash
        simp only [List.cons_append, later, first]
      · simp [hash]

theorem readItem_carried (c : Char) (rest : Text) :
    Carried rest (CutShort mode) (readItem mode (c :: rest))
      (readItem mode (c :: (rest ++ closing))) := by
  unfold readItem
  by_cases escape : c = '\\'
  · subst escape
    exact readEscape_carried mode (.ofSuffix List.suffix_rfl)
  · simpa [escape] using Carried.read (.ofSuffix List.suffix_rfl)

/-- A range whose first end is read, from after its hyphen. -/
def readLast (first : Atom) (text : Text) : Except Fault (CharSet × Text) :=
  match mode.skip text with
  | [] => .error .unclosedClass
  | text => do
    let (last, rest) ← readItem mode text
    let low ← rangeEnd mode first
    let high ← rangeEnd mode last
    if low.toNat ≤ high.toNat then return (.range low.toNat high.toNat, rest)
    else .error .badRange

theorem readRange_eq (text : Text) :
    readRange mode text = (do
      let (first, rest) ← readItem mode text
      match mode.skip rest with
      | [] => .error .unclosedClass
      | '-' :: after =>
        let next := peek mode after
        if next == some ']' || next == some '-' then
          return (← itemSet mode first, '-' :: after)
        else readLast mode first after
      | rest => return (← itemSet mode first, rest)) := rfl

theorem readLast_carried (first : Atom) (level : Level source own whole) :
    Carried source (Within closing) (readLast mode first own) (readLast mode first whole) := by
  unfold readLast
  have level := level.skip mode
  generalize mode.skip own = own at level ⊢
  generalize mode.skip whole = whole at level ⊢
  cases level with
  | @inside c rest part =>
    have inner : rest <:+ source := (List.suffix_cons c rest).trans part
    refine ((readItem_carried mode c rest).widen inner).bind ?_ ?_
    · intro last own whole level
      refine .bind_same fun low => .bind_same fun high => ?_
      split
      · exact .read level
      · exact .failed
    · rintro last left fault (dollar | ⟨⟨condition, rfl⟩, _⟩)
      · refine .error_bind fun low => .error_bind fun high => ?_
        split
        · exact .lost (dollar.trans (List.suffix_cons ')' _))
        · exact .failed
      · exact .error_bind fun low => .failed
  | ahead =>
    change Carried source (Within closing) _ (do
      let low ← rangeEnd mode first
      let high ← rangeEnd mode (.literal ')' false)
      if low.toNat ≤ high.toNat then return (CharSet.range low.toNat high.toNat, ['$'])
      else .error .badRange)
    refine .error_bind fun low => .error_bind fun high => ?_
    split
    · exact .lost (List.suffix_cons ')' _)
    · exact .failed
  | swallowed _ => exact .failed

/-- Reading an item or a range uses up its first character, and leaves some of the closing. -/
theorem readRange_carried (c : Char) (rest : Text) :
    Carried rest (Within closing) (readRange mode (c :: rest))
      (readRange mode (c :: (rest ++ closing))) := by
  rw [readRange_eq, readRange_eq]
  refine (readItem_carried mode c rest).bind ?_ ?_
  · intro first own whole level
    have single (own whole : Text) (level : Level rest own whole) :
        Carried rest (Within closing) (do return (← itemSet mode first, own))
          (do return (← itemSet mode first, whole)) := .bind_same fun _ => .read level
    have level := level.skip mode
    dsimp only
    generalize mode.skip own = own at level ⊢
    generalize mode.skip whole = whole at level ⊢
    cases level with
    | @inside d text part =>
      by_cases hyphen : d = '-'
      · subst hyphen
        simp only [peek_append mode (c := ']') (by decide), peek_append mode (c := '-') (by decide)]
        split
        · exact single _ _ (.inside part)
        · exact readLast_carried mode first (.rest part)
      · simpa [hyphen] using single _ _ (.inside part)
    | ahead => exact .error_bind fun _ => .lost List.suffix_rfl
    | swallowed _ => exact .failed
  · rintro first left fault (dollar | ⟨⟨condition, rfl⟩, inner, rfl, _⟩)
    · -- What is left of the closing begins no range.
      dsimp only
      rw [skip_closing mode (dollar.trans (List.suffix_cons ')' _))]
      obtain rfl | rfl := suffix_dollar dollar
      · exact .failed
      · exact .error_bind fun _ => .lost (List.suffix_cons ')' _)
    · have stays : mode.skip ('{' :: (inner ++ closing)) = '{' :: (inner ++ closing) :=
        skip_cons mode (by decide) _
      simp only [stays]
      exact .failed

def operator? (c : Char) (rest : Text) : Option SetOperator :=
  if rest.head? = some c then
    match c with
    | '&' => some .inter
    | '-' => some .diff
    | '~' => some .symmDiff
    | _ => none
  else none

theorem operator?_append (c : Char) (rest : Text) :
    operator? c (rest ++ closing) = operator? c rest := by
  cases rest with
  | nil =>
    by_cases parenthesis : c = ')'
    · subst parenthesis; rfl
    · simp [operator?, closing, Ne.symm parenthesis]
  | cons d rest => rfl

theorem readClass_cons {mode : Mode} {text rest : Text} {c : Char} {current : OpenClass}
    {outer : List OpenClass} {set : CharSet} (fuel : Nat) (skipped : mode.skip text = c :: rest) :
    readClass mode (fuel + 1) current outer set text =
      if c = '[' then
        match readNamed? mode rest with
        | some (named, rest) => do readClass mode fuel current outer (set.union (← named)) rest
        | none => do
          let (negated, inner, rest) ← readOpening mode rest
          readClass mode fuel ⟨set, negated, none⟩ (current :: outer) inner rest
      else if c = ']' then do
        let closed ← close mode current.negated (combine mode current.operand set)
        match outer with
        | [] => return (closed, rest)
        | parent :: outer =>
          readClass mode fuel parent outer (current.outer.union closed) rest
      else
        match operator? c rest with
        | none => do
          let (item, rest) ← readRange mode (c :: rest)
          readClass mode fuel current outer (set.union item) rest
        | some kind =>
          readClass mode fuel
            { current with operand := some (kind, combine mode current.operand set) } outer .empty
            rest.tail := by
  rw [readClass, skipped]
  by_cases opens : c = '['
  · subst opens; rfl
  by_cases closes : c = ']'
  · subst closes; rfl
  cases rest with
  | nil => simp [operator?, opens, closes]
  | cons d rest =>
    by_cases twice : d = c
    · subst twice
      by_cases inter : d = '&'
      · subst inter; rfl
      by_cases diff : d = '-'
      · subst diff; rfl
      by_cases symmDiff : d = '~'
      · subst symmDiff; rfl
      simp [operator?, opens, closes, inter, diff, symmDiff]
    · have single : operator? c (d :: rest) = none := by simp [operator?, twice]
      have notTwice (e : Char) (left : Text) (same : c :: d :: rest = e :: e :: left) : False := by
        cases same
        exact twice rfl
      rw [single, if_neg opens, if_neg closes]
      split
      · next empty => cases empty
      · next same => exact absurd (List.cons.inj same).1 opens
      · next same => exact absurd (List.cons.inj same).1 closes
      · next same => exact (notTwice _ _ same).elim
      · next same => exact (notTwice _ _ same).elim
      · next same => exact (notTwice _ _ same).elim
      · rfl

/-- No class ends in the closing. -/
theorem readClass_closing {rest : Text} (part : rest <:+ closing) (fuel : Nat) (current : OpenClass)
    (outer : List OpenClass) (set : CharSet) :
    ∃ fault, readClass mode fuel current outer set rest = .error fault := by
  have nothing : mode.skip [] = [] := skip_closing mode List.nil_suffix
  have dollar : mode.skip ['$'] = ['$'] := skip_closing mode (List.suffix_cons ')' _)
  have parenthesis : mode.skip closing = closing := skip_closing mode List.suffix_rfl
  have atDollar (fuel : Nat) (set : CharSet) :
      ∃ fault, readClass mode fuel current outer set ['$'] = .error fault := by
    cases fuel with
    | zero => exact ⟨_, rfl⟩
    | succ fuel =>
      refine ⟨.unclosedClass, ?_⟩
      have range : readRange mode ['$'] = .error .unclosedClass := by
        have item : readItem mode ['$'] = .ok (.literal '$' false, []) := rfl
        simp only [readRange, item, Bind.bind, Except.bind, nothing]
      rw [readClass_cons fuel dollar]
      change (readRange mode ['$'] >>= _) = _
      rw [range]
      rfl
  cases fuel with
  | zero => exact ⟨_, rfl⟩
  | succ fuel =>
    obtain rfl | rfl | rfl := suffix_closing part
    · exact ⟨.unclosedClass, by rw [readClass, nothing]⟩
    · exact atDollar (fuel + 1) set
    · have range : readRange mode closing = .ok (.single ')', ['$']) := by
        have item : readItem mode closing = .ok (.literal ')' false, ['$']) := rfl
        have ascii : (mode.unicode || decide (')'.toNat < 0x80)) = true := by simp
        simp only [readRange, item, Bind.bind, Except.bind, dollar, itemSet, member, ascii]
        rfl
      rw [readClass_cons fuel parenthesis]
      change ∃ fault, (readRange mode closing >>= _) = .error fault
      rw [range]
      exact atDollar fuel _

theorem readClass_carried {n m : Nat} {current : OpenClass} {outer : List OpenClass} {set : CharSet}
    (level : Level source own whole) (enough : own.length < n) (more : n ≤ m) :
    Carried source Never (readClass mode n current outer set own)
      (readClass mode m current outer set whole) := by
  induction n generalizing m source current outer set own whole with
  | zero => exact absurd enough (Nat.not_lt_zero _)
  | succ n ih =>
    obtain ⟨m, rfl⟩ : ∃ k, m = k + 1 := ⟨m - 1, by omega⟩
    have shorter := (skip_suffix mode own).length_le
    have level := level.skip mode
    generalize ownSkipped : mode.skip own = ownLeft at level shorter
    generalize wholeSkipped : mode.skip whole = wholeLeft at level
    cases level with
    | @inside c rest part =>
      rw [List.length_cons] at shorter
      have deeper (current : OpenClass) (outer : List OpenClass) (set : CharSet) (own whole : Text)
          (level : Level rest own whole) :
          Carried rest Never (readClass mode n current outer set own)
            (readClass mode m current outer set whole) := by
        have := level.suffix.length_le
        exact ih level (by omega) (by omega)
      have closes (current : OpenClass) (outer : List OpenClass) (set : CharSet) (left : Text)
          (fault : Fault) (part : left <:+ closing) :
          Carried (α := CharSet) rest Never (.error fault)
            (readClass mode m current outer set left) := by
        obtain ⟨other, failed⟩ := readClass_closing mode part m current outer set
        rw [failed]
        exact .failed
      have after : Level rest rest (rest ++ closing) := .ofSuffix List.suffix_rfl
      have within : rest <:+ source := (List.suffix_cons c rest).trans part
      suffices inner : Carried rest Never _ _ from inner.widen within
      rw [readClass_cons n ownSkipped, readClass_cons m wholeSkipped]
      split
      · rw [readNamed?_append]
        cases named : readNamed? mode rest with
        | none =>
          refine readOpening_carried mode ?_ ?_ after
          · exact fun _ _ _ _ level => deeper _ _ _ _ _ level
          · exact fun _ _ _ _ part => closes _ _ _ _ _ part
        | some result =>
          obtain ⟨result, left⟩ := result
          exact .bind_same fun _ => deeper _ _ _ _ _ (.ofSuffix (readNamed?_suffix mode named))
      split
      · refine .bind_same fun closed => ?_
        cases outer with
        | nil => exact .read after
        | cons parent outer => exact deeper _ _ _ _ _ after
      rw [operator?_append]
      cases operator : operator? c rest with
      | none =>
        refine (readRange_carried mode c rest).bind ?_ ?_
        · exact fun _ _ _ level => deeper _ _ _ _ _ level
        · exact fun _ _ _ part => closes _ _ _ _ _ part
      | some kind =>
        cases rest with
        | nil => simp [operator?] at operator
        | cons d rest => exact deeper _ _ _ _ _ (.ofSuffix (List.suffix_cons d rest))
    | ahead =>
      have same : readClass mode (m + 1) current outer set whole =
          readClass mode (m + 1) current outer set closing := by
        rw [readClass, readClass, wholeSkipped, skip_closing mode List.suffix_rfl]
      obtain ⟨fault, failed⟩ := readClass_closing mode List.suffix_rfl (m + 1) current outer set
      rw [readClass, ownSkipped, same, failed]
      exact .failed
    | swallowed _ =>
      rw [readClass, readClass, ownSkipped, wholeSkipped]
      exact .failed

theorem read_carried (level : Level source own whole) :
    Carried source Never (read mode own) (read mode whole) := by
  refine readOpening_carried mode ?_ ?_ level
  · exact fun _ _ _ _ level => readClass_carried mode level (Nat.lt_succ_self _)
      (Nat.succ_le_succ level.length_le)
  · intro negated set rest fault part
    obtain ⟨other, failed⟩ :=
      readClass_closing mode part (rest.length + 1) ⟨.empty, negated, none⟩ [] set
    dsimp only
    rw [failed]
    exact .failed

end Bracket

end FilterList.Regex
