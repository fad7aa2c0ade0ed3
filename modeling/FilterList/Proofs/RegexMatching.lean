import FilterList.Regex.Positions

/-! Matching by sets of positions finds exactly what the expression spans. The overlay of a
subexpression goes along with its relation of spans, and still does when both are seen from a later
position. So the rows of a loop can be worked out from the last position to the first, each from
the later ones, because no turn leads back. -/

namespace FilterList.Regex
open Unicode

theorem Spans.le_length {text : Text} {expr : Expr} {i j : Nat} (spans : Spans text expr i j) :
    i ≤ j ∧ j ≤ text.length := by
  induction spans with
  | empty bound => exact ⟨Nat.le_refl _, bound⟩
  | chars here _ =>
    obtain ⟨bound, _⟩ := List.getElem?_eq_some_iff.mp here
    omega
  | assertion bound _ => exact ⟨Nat.le_refl _, bound⟩
  | seq _ _ first second => omega
  | left _ ih => exact ih
  | right _ ih => exact ih
  | done bound => exact ⟨Nat.le_refl _, bound⟩
  | again _ _ _ once rest => omega

private theorem testBit_toNat_add_zero (b : Bool) (n : Nat) : (b.toNat + 2 * n).testBit 0 = b := by
  cases b <;> simp [Nat.testBit_zero]

private theorem testBit_toNat_add_succ (b : Bool) (n i : Nat) :
    (b.toNat + 2 * n).testBit (i + 1) = n.testBit i := by
  have half : (b.toNat + 2 * n) / 2 = n := by
    have := Bool.toNat_lt b
    omega
  rw [Nat.testBit_succ, half]

theorem testBit_stepPositions (set : CharSet) (text : Text) (i : Nat) :
    (stepPositions set text).testBit i = true ↔ ∃ c, text[i]? = some c ∧ set.contains c = true := by
  induction text generalizing i with
  | nil => simp [stepPositions]
  | cons c rest ih =>
    unfold stepPositions
    cases i with
    | zero => rw [testBit_toNat_add_zero]; simp
    | succ i => rw [testBit_toNat_add_succ, ih]; simp

theorem testBit_testPositions (condition : Assertion) (before : Option Char) (text : Text)
    (i : Nat) :
    (testPositions condition before text).testBit i = true ↔
      i ≤ text.length ∧
        condition.holds (if i = 0 then before else text[i - 1]?) text[i]? = true := by
  induction text generalizing before i with
  | nil =>
    unfold testPositions
    cases i with
    | zero => cases holds : condition.holds before none <;> simp [holds]
    | succ i => cases condition.holds before none <;> simp [Nat.testBit_succ]
  | cons c rest ih =>
    unfold testPositions
    cases i with
    | zero => rw [testBit_toNat_add_zero]; simp
    | succ i =>
      rw [testBit_toNat_add_succ, ih]
      cases i <;> simp

private theorem testBit_double (n j : Nat) :
    (2 * n).testBit j = true ↔ ∃ i, j = i + 1 ∧ n.testBit i = true := by
  cases j with
  | zero => simp
  | succ j =>
    rw [Nat.testBit_succ, Nat.mul_div_cancel_left n (by decide)]
    simp

private theorem testBit_without (positions others k : Nat) :
    (without positions others).testBit k = (positions.testBit k && !others.testBit k) := by
  rw [without, Nat.testBit_xor, Nat.testBit_and]
  cases positions.testBit k <;> cases others.testBit k <;> rfl

/-- A set of positions all of which are among the first `count`. -/
def Below (count positions : Nat) : Prop := ∀ i, positions.testBit i = true → i < count

/-- A function on sets of positions that takes each position by itself along `step`, which leads
forward and not beyond the first `count`. -/
structure Additive (count : Nat) (next : Nat → Nat) (step : Nat → Nat → Prop) : Prop where
  reached_iff : ∀ {starts} j, Below count starts →
    ((next starts).testBit j = true ↔ ∃ i, starts.testBit i = true ∧ step i j)
  moves : ∀ {i j}, i < count → step i j → i ≤ j ∧ j < count

namespace Additive
variable {count : Nat} {next : Nat → Nat} {step : Nat → Nat → Prop}

theorem below (additive : Additive count next step) {starts : Nat} (inside : Below count starts) :
    Below count (next starts) := by
  intro j reached
  obtain ⟨i, start, move⟩ := (additive.reached_iff j inside).mp reached
  exact (additive.moves (inside i start) move).2

theorem congr {other : Nat → Nat → Prop} (additive : Additive count next step)
    (same : ∀ i j, i < count → (step i j ↔ other i j)) : Additive count next other where
  reached_iff j inside := by
    rw [additive.reached_iff j inside]
    exact exists_congr fun i => and_congr_right fun start => same i j (inside i start)
  moves bound move := additive.moves bound ((same _ _ bound).mpr move)

theorem comp {after : Nat → Nat} {last : Nat → Nat → Prop} (additive : Additive count next step)
    (additiveAfter : Additive count after last) :
    Additive count (fun starts => after (next starts)) fun i j => ∃ k, step i k ∧ last k j where
  reached_iff j inside := by
    rw [additiveAfter.reached_iff j (additive.below inside)]
    constructor
    · rintro ⟨k, reached, second⟩
      obtain ⟨i, start, first⟩ := (additive.reached_iff k inside).mp reached
      exact ⟨i, start, k, first, second⟩
    · rintro ⟨i, start, k, first, second⟩
      exact ⟨k, (additive.reached_iff k inside).mpr ⟨i, start, first⟩, second⟩
  moves bound := by
    rintro ⟨k, first, second⟩
    have toMiddle := additive.moves bound first
    have toEnd := additiveAfter.moves toMiddle.2 second
    omega

theorem union {other : Nat → Nat} {otherStep : Nat → Nat → Prop}
    (additive : Additive count next step) (additiveOther : Additive count other otherStep) :
    Additive count (fun starts => next starts ||| other starts) fun i j =>
      step i j ∨ otherStep i j where
  reached_iff j inside := by
    rw [Nat.testBit_or, Bool.or_eq_true, additive.reached_iff j inside,
      additiveOther.reached_iff j inside]
    constructor
    · rintro (⟨i, start, move⟩ | ⟨i, start, move⟩)
      · exact ⟨i, start, .inl move⟩
      · exact ⟨i, start, .inr move⟩
    · rintro ⟨i, start, move | move⟩
      · exact .inl ⟨i, start, move⟩
      · exact .inr ⟨i, start, move⟩
  moves bound move := move.elim (additive.moves bound) (additiveOther.moves bound)

end Additive

theorem iterate_succ (next : Nat → Nat) (count positions : Nat) :
    iterate next (count + 1) positions = iterate next count (next positions) := by
  have still {positions : Nat} (same : next positions = positions) (count : Nat) :
      iterate next count positions = positions := by
    cases count with
    | zero => rfl
    | succ count => rw [iterate, if_pos same]
  rw [iterate]
  split
  · next same => rw [same, still same]
  · rfl

/-- Exactly `count` steps. -/
def Steps (step : Nat → Nat → Prop) : Nat → Nat → Nat → Prop
  | 0, i, j => i = j
  | count + 1, i, j => ∃ k, step i k ∧ Steps step count k j

/-- One step or more. -/
def Plus (step : Nat → Nat → Prop) (i j : Nat) : Prop := ∃ n, Steps step (n + 1) i j

private theorem Steps.append {step : Nat → Nat → Prop} {first second i j k : Nat}
    (left : Steps step first i j) (right : Steps step second j k) :
    Steps step (first + second) i k := by
  induction first generalizing i with
  | zero =>
    obtain rfl : i = j := left
    rw [Nat.zero_add]
    exact right
  | succ first ih =>
    obtain ⟨m, move, rest⟩ := left
    rw [Nat.add_right_comm]
    exact ⟨m, move, ih rest⟩

private theorem Steps.split {step : Nat → Nat → Prop} {first second i k : Nat}
    (steps : Steps step (first + second) i k) :
    ∃ j, Steps step first i j ∧ Steps step second j k := by
  induction first generalizing i with
  | zero =>
    rw [Nat.zero_add] at steps
    exact ⟨i, rfl, steps⟩
  | succ first ih =>
    rw [Nat.add_right_comm] at steps
    obtain ⟨m, move, rest⟩ := steps
    obtain ⟨j, left, right⟩ := ih rest
    exact ⟨j, ⟨m, move, left⟩, right⟩

theorem Plus.trans {step : Nat → Nat → Prop} {i j k : Nat} (first : Plus step i j)
    (second : Plus step j k) : Plus step i k := by
  obtain ⟨m, first⟩ := first
  obtain ⟨n, second⟩ := second
  exact ⟨m + 1 + n, first.append second⟩

theorem Additive.moves_steps {count : Nat} {next : Nat → Nat} {step : Nat → Nat → Prop}
    (additive : Additive count next step) {n i j : Nat} (bound : i < count)
    (steps : Steps step n i j) : i ≤ j ∧ j < count := by
  induction n generalizing i with
  | zero => exact ⟨Nat.le_of_eq steps, steps ▸ bound⟩
  | succ n ih =>
    obtain ⟨k, move, rest⟩ := steps
    have first := additive.moves bound move
    have last := ih first.2 rest
    omega

theorem Additive.iterate {count : Nat} {next : Nat → Nat} {step : Nat → Nat → Prop}
    (additive : Additive count next step) (n : Nat) :
    Additive count (iterate next n) (Steps step n) where
  reached_iff j inside := by
    rename_i starts
    induction n generalizing starts with
    | zero => simp [Regex.iterate, Steps]
    | succ n ih =>
      rw [iterate_succ, ih (additive.below inside)]
      constructor
      · rintro ⟨k, reached, rest⟩
        obtain ⟨i, start, first⟩ := (additive.reached_iff k inside).mp reached
        exact ⟨i, start, k, first, rest⟩
      · rintro ⟨i, start, k, first, rest⟩
        exact ⟨k, (additive.reached_iff k inside).mpr ⟨i, start, first⟩, rest⟩
  moves bound steps := additive.moves_steps bound steps

/-- Where every step from a set stays in the set, so does every run of steps. -/
private theorem Steps.closed {step : Nat → Nat → Prop} {positions : Nat}
    (closed : ∀ i k, positions.testBit i = true → step i k → positions.testBit k = true)
    {count i j : Nat} (start : positions.testBit i = true) (steps : Steps step count i j) :
    positions.testBit j = true := by
  induction count generalizing i with
  | zero => exact steps ▸ start
  | succ count ih =>
    obtain ⟨k, move, rest⟩ := steps
    exact ih (closed i k start move) rest

private theorem testBit_or_fresh (reached seen k : Nat) :
    (seen ||| without reached seen).testBit k = true ↔
      seen.testBit k = true ∨ reached.testBit k = true := by
  rw [Nat.testBit_or, testBit_without]
  cases reached.testBit k <;> cases seen.testBit k <;> simp

/-- Spreading from the positions reached last finds all that is reached in so many more steps, if
what the earlier positions lead to has been seen. -/
theorem testBit_spread {bound : Nat} {next : Nat → Nat} {step : Nat → Nat → Prop}
    (additive : Additive bound next step) (count : Nat) {seen latest : Nat} (j : Nat)
    (inside : Below bound latest)
    (known : ∀ i, latest.testBit i = true → seen.testBit i = true)
    (settled : ∀ i k, seen.testBit i = true → step i k →
      seen.testBit k = true ∨ (next latest).testBit k = true) :
    (spread next count seen latest).testBit j = true ↔
      ∃ i n, seen.testBit i = true ∧ n ≤ count ∧ Steps step n i j := by
  induction count generalizing seen latest with
  | zero =>
    simp only [spread, Nat.le_zero]
    constructor
    · intro old
      exact ⟨j, 0, old, rfl, rfl⟩
    · rintro ⟨i, n, start, rfl, rfl⟩
      exact start
  | succ count ih =>
    rw [spread]
    split
    · next none =>
      have closed (i k : Nat) (start : seen.testBit i = true) (move : step i k) :
          seen.testBit k = true := by
        rcases settled i k start move with old | reached
        · exact old
        · have zero := testBit_without (next latest) seen k
          rw [none, Nat.zero_testBit, reached] at zero
          simpa using zero
      constructor
      · intro old
        exact ⟨j, 0, old, Nat.zero_le _, rfl⟩
      · rintro ⟨i, n, start, _, steps⟩
        exact steps.closed closed start
    · rw [ih]
      · constructor
        · rintro ⟨i, n, start, short, steps⟩
          rcases (testBit_or_fresh _ _ i).mp start with old | reached
          · exact ⟨i, n, old, by omega, steps⟩
          · obtain ⟨k, origin, move⟩ := (additive.reached_iff i inside).mp reached
            exact ⟨k, n + 1, known k origin, by omega, i, move, steps⟩
        · rintro ⟨i, n, start, short, steps⟩
          cases n with
          | zero => exact ⟨i, 0, (testBit_or_fresh _ _ i).mpr (.inl start), by omega, steps⟩
          | succ n =>
            obtain ⟨k, move, rest⟩ := steps
            exact ⟨k, n, (testBit_or_fresh _ _ k).mpr (settled i k start move), by omega, rest⟩
      · intro i new
        rw [testBit_without, Bool.and_eq_true] at new
        exact additive.below inside i new.1
      · intro i new
        rw [Nat.testBit_or, new, Bool.or_true]
      · intro i k start move
        by_cases old : seen.testBit i = true
        · exact .inl ((testBit_or_fresh _ _ k).mpr (settled i k old move))
        · right
          have reached := ((testBit_or_fresh _ _ i).mp start).resolve_left old
          refine (additive.reached_iff k ?_).mpr ⟨i, ?_, move⟩
          · intro i new
            rw [testBit_without, Bool.and_eq_true] at new
            exact additive.below inside i new.1
          · rw [testBit_without, reached]
            simp [old]

/-- The turns that have to be taken come first, and then as many more as there may be. -/
theorem Additive.turns {count : Nat} {next : Nat → Nat} {step : Nat → Nat → Prop}
    (additive : Additive count next step) (least more : Nat) :
    Additive count
      (fun starts => spread next more (Regex.iterate next least starts)
        (Regex.iterate next least starts))
      fun i j => ∃ n, least ≤ n ∧ n ≤ least + more ∧ Steps step n i j where
  reached_iff j inside := by
    have begun := (additive.iterate least).below inside
    rw [testBit_spread additive _ j begun (fun _ here => here)
      (fun i k here move => .inr ((additive.reached_iff k begun).mpr ⟨i, here, move⟩))]
    constructor
    · rintro ⟨k, n, reached, short, rest⟩
      obtain ⟨i, start, first⟩ := ((additive.iterate least).reached_iff k inside).mp reached
      exact ⟨i, start, least + n, by omega, by omega, first.append rest⟩
    · rintro ⟨i, start, n, low, high, steps⟩
      obtain ⟨extra, rfl⟩ := Nat.exists_eq_add_of_le low
      obtain ⟨k, first, rest⟩ := steps.split
      exact ⟨k, extra, ((additive.iterate least).reached_iff k inside).mpr ⟨i, start, first⟩,
        by omega, rest⟩
  moves bound := by
    rintro ⟨n, _, _, steps⟩
    exact additive.moves_steps bound steps

/-- The same steps as seen from the next position. -/
def shifted (step : Nat → Nat → Prop) (i j : Nat) : Prop := step (i + 1) (j + 1)

/-- The overlay leads along `step` from each of the next `count` positions, and does so too as seen
from each of them. -/
def Follows : Nat → Overlay → (Nat → Nat → Prop) → Prop
  | 0, _, _ => True
  | count + 1, overlay, step =>
    Additive (count + 1) overlay.ends step ∧ Follows count overlay.advance (shifted step)

theorem Steps.shifted_iff {count : Nat} {next : Nat → Nat} {step : Nat → Nat → Prop}
    (additive : Additive (count + 1) next step) {n i j : Nat} (bound : i < count) :
    Steps (shifted step) n i j ↔ Steps step n (i + 1) (j + 1) := by
  induction n generalizing i with
  | zero => simp [Steps]
  | succ n ih =>
    constructor
    · rintro ⟨k, move, rest⟩
      have := additive.moves (by omega) move
      exact ⟨k + 1, move, (ih (by omega)).mp rest⟩
    · rintro ⟨k, move, rest⟩
      have := additive.moves (by omega) move
      obtain ⟨k, rfl⟩ : ∃ m, k = m + 1 := ⟨k - 1, by omega⟩
      exact ⟨k, move, (ih (by omega)).mpr rest⟩

theorem Plus.shifted_iff {count : Nat} {next : Nat → Nat} {step : Nat → Nat → Prop}
    (additive : Additive (count + 1) next step) {i j : Nat} (bound : i < count) :
    Plus (shifted step) i j ↔ Plus step (i + 1) (j + 1) :=
  exists_congr fun _ => Steps.shifted_iff additive bound

/-- A way of one step or more either is one step, or leaves the first position by a step from which
such a way goes on. -/
theorem Plus.first_iff {step : Nat → Nat → Prop} {j : Nat} :
    Plus step 0 j ↔ step 0 j ∨ ∃ k, step 0 (k + 1) ∧ Plus step (k + 1) j := by
  constructor
  · rintro ⟨n, steps⟩
    induction n with
    | zero =>
      obtain ⟨k, move, rfl⟩ := steps
      exact .inl move
    | succ n ih =>
      obtain ⟨k, move, rest⟩ := steps
      cases k with
      | zero => exact ih rest
      | succ k => exact .inr ⟨k, move, n, rest⟩
  · rintro (move | ⟨k, move, n, rest⟩)
    · exact ⟨0, j, move, rfl⟩
    · exact ⟨n + 1, k + 1, move, rest⟩

namespace Follows

theorem congr {count : Nat} {overlay : Overlay} {step other : Nat → Nat → Prop}
    (follows : Follows count overlay step) (same : ∀ i j, i < count → (step i j ↔ other i j)) :
    Follows count overlay other := by
  induction count generalizing overlay step other with
  | zero => trivial
  | succ count ih =>
    exact ⟨follows.1.congr same, ih follows.2 fun i j bound => same (i + 1) (j + 1) (by omega)⟩

theorem empty (count : Nat) : Follows count .empty fun i j => i = j := by
  induction count with
  | zero => trivial
  | succ count ih =>
    refine ⟨⟨fun j _ => by simp [Overlay.ends], by omega⟩, ih.congr fun i j _ => ?_⟩
    simp [shifted]

theorem step {count positions : Nat} (bound : Below count (2 * positions)) :
    Follows count (.step positions) fun i j => positions.testBit i = true ∧ j = i + 1 := by
  induction count generalizing positions with
  | zero => trivial
  | succ count ih =>
    refine ⟨⟨fun {starts} j _ => ?_, ?_⟩, (@ih (positions / 2) ?_).congr fun i j _ => ?_⟩
    · rw [Overlay.ends, testBit_double]
      simp only [Nat.testBit_and, Bool.and_eq_true]
      constructor
      · rintro ⟨i, rfl, start, here⟩
        exact ⟨i, start, here, rfl⟩
      · rintro ⟨i, start, here, rfl⟩
        exact ⟨i, rfl, start, here⟩
    · rintro i j _ ⟨here, rfl⟩
      have := bound (i + 1) ((testBit_double _ _).mpr ⟨i, rfl, here⟩)
      omega
    · intro i reached
      obtain ⟨i, rfl, here⟩ := (testBit_double _ _).mp reached
      rw [← Nat.testBit_succ] at here
      have := bound (i + 2) ((testBit_double _ _).mpr ⟨i + 1, rfl, here⟩)
      omega
    · simp [shifted, Nat.testBit_succ]

theorem test (count positions : Nat) :
    Follows count (.test positions) fun i j => positions.testBit i = true ∧ i = j := by
  induction count generalizing positions with
  | zero => trivial
  | succ count ih =>
    refine ⟨⟨fun {starts} j _ => ?_, by omega⟩, (ih (positions / 2)).congr fun i j _ => ?_⟩
    · rw [Overlay.ends, Nat.testBit_and, Bool.and_eq_true]
      constructor
      · rintro ⟨start, here⟩
        exact ⟨j, start, here, rfl⟩
      · rintro ⟨i, start, here, rfl⟩
        exact ⟨start, here⟩
    · simp [shifted, Nat.testBit_succ]

theorem seq {count : Nat} {first second : Overlay} {step last : Nat → Nat → Prop}
    (follows : Follows count first step) (followsAfter : Follows count second last) :
    Follows count (.seq first second) fun i j => ∃ k, step i k ∧ last k j := by
  induction count generalizing first second step last with
  | zero => trivial
  | succ count ih =>
    refine ⟨follows.1.comp followsAfter.1, (ih follows.2 followsAfter.2).congr fun i j bound => ?_⟩
    constructor
    · rintro ⟨k, left, right⟩
      exact ⟨k + 1, left, right⟩
    · rintro ⟨k, left, right⟩
      have := follows.1.moves (by omega) left
      obtain ⟨k, rfl⟩ : ∃ m, k = m + 1 := ⟨k - 1, by omega⟩
      exact ⟨k, left, right⟩

theorem alt {count : Nat} {left right : Overlay} {step other : Nat → Nat → Prop}
    (follows : Follows count left step) (followsOther : Follows count right other) :
    Follows count (.alt left right) fun i j => step i j ∨ other i j := by
  induction count generalizing left right step other with
  | zero => trivial
  | succ count ih => exact ⟨follows.1.union followsOther.1, ih follows.2 followsOther.2⟩

theorem turns {count : Nat} {body : Overlay} {step : Nat → Nat → Prop}
    (follows : Follows count body step) (least more : Nat) :
    Follows count (.turns body least more) fun i j =>
      ∃ n, least ≤ n ∧ n ≤ least + more ∧ Steps step n i j := by
  induction count generalizing body step with
  | zero => trivial
  | succ count ih =>
    refine ⟨follows.1.turns least more, (ih follows.2).congr fun i j bound => ?_⟩
    simp only [Steps.shifted_iff follows.1 bound, shifted]

end Follows

/-- The rows lead wherever one turn or more of the body lead. -/
theorem testBit_reach_closure {count : Nat} {body : Overlay} {step : Nat → Nat → Prop}
    (follows : Follows count body step) {starts : Nat} (j : Nat) (inside : Below count starts) :
    (reach (Overlay.closure count body) starts).testBit j = true ↔
      ∃ i, starts.testBit i = true ∧ Plus step i j := by
  induction count generalizing body step starts j with
  | zero =>
    have none (i : Nat) : starts.testBit i ≠ true := fun start => absurd (inside i start) (by omega)
    simp [Overlay.closure, reach, none]
  | succ count ih =>
    have additive := follows.1
    have later {starts : Nat} (j : Nat) (inside : Below count starts) :
        (2 * reach (Overlay.closure count body.advance) starts).testBit j = true ↔
          ∃ i, starts.testBit i = true ∧ Plus step (i + 1) j := by
      rw [testBit_double]
      constructor
      · rintro ⟨j, rfl, reached⟩
        obtain ⟨i, start, way⟩ := (ih follows.2 j inside).mp reached
        exact ⟨i, start, (Plus.shifted_iff additive (inside i start)).mp way⟩
      · rintro ⟨i, start, way⟩
        have bound := inside i start
        obtain ⟨n, steps⟩ := id way
        have forward := additive.moves_steps (by omega) steps
        obtain ⟨j, rfl⟩ : ∃ m, j = m + 1 := ⟨j - 1, by omega⟩
        exact ⟨j, rfl, (ih follows.2 j inside).mpr
          ⟨i, start, (Plus.shifted_iff additive bound).mpr way⟩⟩
    have inside_half {starts : Nat} (inside : Below (count + 1) starts) :
        Below count (starts / 2) := by
      intro i start
      rw [← Nat.testBit_succ] at start
      have := inside (i + 1) start
      omega
    have inside_one : Below (count + 1) 1 := by
      intro i start
      obtain rfl : i = 0 := by simpa [Nat.testBit_one_eq_true_iff_self_eq_zero] using start
      omega
    have once (j : Nat) : (body.ends 1).testBit j = true ↔ step 0 j := by
      rw [additive.reached_iff j inside_one]
      simp [Nat.testBit_one_eq_true_iff_self_eq_zero]
    have row (j : Nat) :
        (body.ends 1 ||| 2 * reach (Overlay.closure count body.advance) (body.ends 1 / 2)).testBit j
          = true ↔ Plus step 0 j := by
      rw [Nat.testBit_or, Bool.or_eq_true, once,
        later j (inside_half (additive.below inside_one)), Plus.first_iff]
      simp only [← Nat.testBit_succ, once]
    rw [Overlay.closure, reach]
    split
    · next none => simp [none]
    split
    · next odd =>
      have first : starts.testBit 0 = true := by simp [Nat.testBit_zero, odd]
      rw [Nat.testBit_or, Bool.or_eq_true, row, later]
      · simp only [testBit_without, ← Nat.testBit_succ, Bool.and_eq_true, Bool.not_eq_true',
          Bool.eq_false_iff, ne_eq, row]
        constructor
        · rintro (way | ⟨i, ⟨start, _⟩, way⟩)
          · exact ⟨0, first, way⟩
          · exact ⟨i + 1, start, way⟩
        · rintro ⟨i, start, way⟩
          cases i with
          | zero => exact .inl way
          | succ i =>
            by_cases led : Plus step 0 (i + 1)
            · exact .inl (led.trans way)
            · exact .inr ⟨i, ⟨start, led⟩, way⟩
      · intro i fresh
        rw [testBit_without, Bool.and_eq_true] at fresh
        exact inside_half inside i fresh.1
    · next even =>
      rw [later j (inside_half inside)]
      simp only [← Nat.testBit_succ]
      constructor
      · rintro ⟨i, start, way⟩
        exact ⟨i + 1, start, way⟩
      · rintro ⟨i, start, way⟩
        cases i with
        | zero => simp [Nat.testBit_zero, even] at start
        | succ i => exact ⟨i, start, way⟩

theorem Follows.again {count : Nat} {body : Overlay} {step : Nat → Nat → Prop}
    (follows : Follows count body step) :
    Follows count (.again (Overlay.closure count body)) (Plus step) := by
  induction count generalizing body step with
  | zero => trivial
  | succ count ih =>
    refine ⟨⟨fun j inside => testBit_reach_closure follows j inside, ?_⟩,
      (ih follows.2).congr fun i j bound => Plus.shifted_iff follows.1 bound⟩
    rintro i j bound ⟨n, steps⟩
    exact follows.1.moves_steps bound steps

/-- A loop spans what some number of turns within its bounds spans. -/
theorem spans_loop_iff {text : Text} {body : Expr} {least : Nat} {most : Option Nat} {i j : Nat}
    (bound : i ≤ text.length) :
    Spans text (.loop body least most) i j ↔
      ∃ n, least ≤ n ∧ (∀ m, most = some m → n ≤ max least m) ∧ Steps (Spans text body) n i j := by
  constructor
  · intro spans
    generalize whole : Expr.loop body least most = expr at spans
    induction spans generalizing least most with
    | done _ =>
      cases whole
      exact ⟨0, Nat.le_refl _, fun _ _ => Nat.zero_le _, rfl⟩
    | again room once _ _ ih =>
      cases whole
      obtain ⟨n, low, high, steps⟩ := ih once.le_length.2 rfl
      refine ⟨n + 1, by omega, ?_, _, once, steps⟩
      rintro m rfl
      have := high (m - 1) rfl
      rcases room with positive | room
      · omega
      · have : m ≠ 0 := fun zero => room (zero ▸ rfl)
        omega
    | _ => cases whole
  · rintro ⟨n, low, high, steps⟩
    induction n generalizing least most i with
    | zero =>
      obtain rfl : least = 0 := by omega
      obtain rfl : i = j := steps
      exact .done bound
    | succ n ih =>
      obtain ⟨k, once, rest⟩ := steps
      refine .again ?_ once (ih once.le_length.2 (by omega) ?_ rest)
      · cases most with
        | none => exact .inr (by simp)
        | some m =>
          have := high m rfl
          by_cases positive : 0 < least
          · exact .inl positive
          · refine .inr fun zero => ?_
            cases zero
            omega
      · intro m eq
        obtain ⟨top, rfl, rfl⟩ := Option.map_eq_some_iff.mp eq
        have := high top rfl
        omega

private theorem spans_empty_iff {text : Text} {i j : Nat} (bound : i ≤ text.length) :
    Spans text .empty i j ↔ i = j :=
  ⟨fun spans => by cases spans; rfl, fun same => same ▸ .empty bound⟩

/-- The overlay of an expression leads along the expression's spans. -/
theorem follows_over (text : Text) (expr : Expr) :
    Follows (text.length + 1) (expr.over text) (Spans text expr) := by
  induction expr with
  | empty =>
    exact (Follows.empty _).congr fun i j bound => (spans_empty_iff (by omega)).symm
  | chars set =>
    refine (Follows.step ?_).congr fun i j bound => ?_
    · intro j reached
      obtain ⟨i, rfl, here⟩ := (testBit_double _ _).mp reached
      obtain ⟨c, here, _⟩ := (testBit_stepPositions set text i).mp here
      obtain ⟨bound, _⟩ := List.getElem?_eq_some_iff.mp here
      omega
    · rw [testBit_stepPositions]
      constructor
      · rintro ⟨⟨c, here, member⟩, rfl⟩
        exact .chars here member
      · intro spans
        cases spans with
        | chars here member => exact ⟨⟨_, here, member⟩, rfl⟩
  | assertion condition =>
    refine (Follows.test _ _).congr fun i j bound => ?_
    rw [testBit_testPositions]
    constructor
    · rintro ⟨⟨bound, holds⟩, rfl⟩
      exact .assertion bound holds
    · intro spans
      cases spans with
      | assertion bound holds => exact ⟨⟨bound, holds⟩, rfl⟩
  | seq first second ihFirst ihSecond =>
    refine (ihFirst.seq ihSecond).congr fun i j _ => ?_
    constructor
    · rintro ⟨k, left, right⟩
      exact .seq left right
    · intro spans
      cases spans with
      | seq left right => exact ⟨_, left, right⟩
  | alt left right ihLeft ihRight =>
    refine (ihLeft.alt ihRight).congr fun i j _ => ?_
    constructor
    · rintro (spans | spans)
      · exact .left spans
      · exact .right spans
    · intro spans
      cases spans with
      | left spans => exact .inl spans
      | right spans => exact .inr spans
  | loop body least most ih =>
    cases most with
    | some most =>
      refine (ih.turns least (most - least)).congr fun i j bound => ?_
      rw [spans_loop_iff (by omega)]
      refine exists_congr fun n => and_congr_right fun low => and_congr_left fun _ => ?_
      simp only [Option.some.injEq, forall_eq']
      omega
    | none =>
      have unbounded {i j : Nat} (bound : i < text.length + 1) :
          Spans text (.loop body least none) i j ↔
            ∃ n, least ≤ n ∧ Steps (Spans text body) n i j := by
        rw [spans_loop_iff (by omega)]
        simp
      match least with
      | 0 =>
        refine ((Follows.empty _).alt ih.again).congr fun i j bound => ?_
        rw [unbounded bound]
        constructor
        · rintro (rfl | ⟨n, steps⟩)
          · exact ⟨0, Nat.zero_le _, rfl⟩
          · exact ⟨n + 1, Nat.zero_le _, steps⟩
        · rintro ⟨n, _, steps⟩
          cases n with
          | zero => exact .inl steps
          | succ n => exact .inr ⟨n, steps⟩
      | 1 =>
        refine ih.again.congr fun i j bound => ?_
        rw [unbounded bound]
        constructor
        · rintro ⟨n, steps⟩
          exact ⟨n + 1, by omega, steps⟩
        · rintro ⟨n, low, steps⟩
          obtain ⟨n, rfl⟩ := Nat.exists_eq_add_of_le' low
          exact ⟨n, steps⟩
      | least + 2 =>
        refine ((ih.turns (least + 1) 0).seq ih.again).congr fun i j bound => ?_
        rw [unbounded bound]
        constructor
        · rintro ⟨k, ⟨m, low, _, first⟩, n, rest⟩
          exact ⟨m + (n + 1), by omega, first.append rest⟩
        · rintro ⟨n, low, steps⟩
          obtain ⟨n, rfl⟩ := Nat.exists_eq_add_of_le low
          rw [show least + 2 + n = least + 1 + (n + 1) by omega] at steps
          obtain ⟨k, first, rest⟩ := steps.split
          exact ⟨k, ⟨least + 1, Nat.le_refl _, Nat.le_refl _, first⟩, n, rest⟩

theorem below_allPositions (length : Nat) : Below (length + 1) (allPositions length) := by
  intro i reached
  rw [allPositions, Nat.one_shiftLeft, Nat.testBit_two_pow_sub_one, decide_eq_true_eq] at reached
  exact reached

/-- An expression occurs in a text exactly where it spans some stretch of it. -/
theorem occursIn_iff {expr : Expr} {text : Text} :
    expr.occursIn text = true ↔ ∃ i j, Spans text expr i j := by
  have reached_iff (j : Nat) := (follows_over text expr).1.reached_iff j (below_allPositions _)
  rw [Expr.occursIn, bne_iff_ne]
  constructor
  · intro some_
    obtain ⟨j, reached⟩ := Nat.exists_testBit_of_ne_zero some_
    obtain ⟨i, _, spans⟩ := (reached_iff j).mp reached
    exact ⟨i, j, spans⟩
  · rintro ⟨i, j, spans⟩ none
    have start : (allPositions text.length).testBit i = true := by
      rw [allPositions, Nat.one_shiftLeft, Nat.testBit_two_pow_sub_one, decide_eq_true_eq]
      have := spans.le_length
      omega
    have reached := (reached_iff j).mpr ⟨i, start, spans⟩
    rw [none, Nat.zero_testBit] at reached
    cases reached

end FilterList.Regex
