import FilterList.Text.Basic

/-!
Sets of characters. A set is kept as the code points where membership changes, so two sets are
combined by one walk along both. The main statements say which characters each operation holds.
-/

namespace FilterList.Unicode

/-- A set of code points: the first bound is the first member, the second the first code point
after it that is none, and so on in turn. -/
structure CharSet where
  bounds : List Nat
  ascending : bounds.Pairwise (· < ·)
  deriving Repr, DecidableEq

namespace CharSet

/-- Whether `n` is a member, if what lies before the first bound is one just when `state` holds. -/
def inside (n : Nat) (state : Bool) : List Nat → Bool
  | [] => state
  | bound :: rest => if n < bound then state else inside n (!state) rest

def contains (set : CharSet) (c : Char) : Bool := inside c.toNat false set.bounds

/-- Puts a bound in front where membership differs before and after it. -/
def flipAt (bound : Nat) (before after : Bool) (rest : List Nat) : List Nat :=
  if before = after then rest else bound :: rest

/-- The bounds of a combination up to the left set's bound `x`, and from there on by `next`. -/
def mergeAt (f : Bool → Bool → Bool) (a : Bool) (x : Nat) (next : Bool → List Nat → List Nat) :
    Bool → List Nat → List Nat
  | b, [] => flipAt x (f a b) (f (!a) b) (next b [])
  | b, y :: ys =>
    if y < x then flipAt y (f a b) (f a !b) (mergeAt f a x next (!b) ys)
    else if x < y then flipAt x (f a b) (f (!a) b) (next b (y :: ys))
    else flipAt x (f a b) (f (!a) !b) (next (!b) ys)

/-- The bounds of the set whose members `f` tells from membership in two sets; `a` and `b` are
membership before the first bound. -/
def merge (f : Bool → Bool → Bool) : Bool → List Nat → Bool → List Nat → List Nat
  | a, [], b, ys => if f a b = f a !b then [] else ys
  | a, x :: xs, b, ys => mergeAt f a x (merge f (!a) xs) b ys

private theorem merge_cons_nil (f : Bool → Bool → Bool) (a : Bool) (x : Nat) (xs : List Nat)
    (b : Bool) :
    merge f a (x :: xs) b [] = flipAt x (f a b) (f (!a) b) (merge f (!a) xs b []) := rfl

private theorem merge_cons_cons (f : Bool → Bool → Bool) (a : Bool) (x : Nat) (xs : List Nat)
    (b : Bool) (y : Nat) (ys : List Nat) :
    merge f a (x :: xs) b (y :: ys) =
      if y < x then flipAt y (f a b) (f a !b) (merge f a (x :: xs) (!b) ys)
      else if x < y then flipAt x (f a b) (f (!a) b) (merge f (!a) xs b (y :: ys))
      else flipAt x (f a b) (f (!a) !b) (merge f (!a) xs (!b) ys) := rfl

/-- Combining sets makes no new bounds. -/
theorem mem_merge {f : Bool → Bool → Bool} {n : Nat} {a : Bool} {xs : List Nat} {b : Bool}
    {ys : List Nat} (member : n ∈ merge f a xs b ys) : n ∈ xs ∨ n ∈ ys := by
  have mem_flipAt {bound : Nat} {before after : Bool} {rest : List Nat}
      (member : n ∈ flipAt bound before after rest) : n = bound ∨ n ∈ rest := by
    unfold flipAt at member
    split at member
    · exact .inr member
    · exact List.mem_cons.mp member
  induction xs generalizing a b ys with
  | nil =>
    unfold merge at member
    split at member
    · cases member
    · exact .inr member
  | cons x xs ih =>
    induction ys generalizing b with
    | nil =>
      rw [merge_cons_nil] at member
      rcases mem_flipAt member with here | later
      · exact .inl (List.mem_cons.mpr (.inl here))
      · exact (ih later).imp_left (List.mem_cons_of_mem _)
    | cons y ys within =>
      rw [merge_cons_cons] at member
      split at member
      · rcases mem_flipAt member with here | later
        · exact .inr (List.mem_cons.mpr (.inl here))
        · exact (within later).imp_right (List.mem_cons_of_mem _)
      · split at member
        · rcases mem_flipAt member with here | later
          · exact .inl (List.mem_cons.mpr (.inl here))
          · exact (ih later).imp_left (List.mem_cons_of_mem _)
        · rcases mem_flipAt member with here | later
          · exact .inl (List.mem_cons.mpr (.inl here))
          · exact (ih later).imp (List.mem_cons_of_mem _) (List.mem_cons_of_mem _)

private theorem lt_of_mem_merge {f : Bool → Bool → Bool} {low : Nat} {a : Bool} {xs : List Nat}
    {b : Bool} {ys : List Nat} (left : ∀ x ∈ xs, low < x) (right : ∀ y ∈ ys, low < y) :
    ∀ n ∈ merge f a xs b ys, low < n :=
  fun n member => (mem_merge member).elim (left n) (right n)

private theorem lt_of_mem_cons {low first : Nat} {rest : List Nat} (below : low < first)
    (above : ∀ n ∈ rest, first < n) : ∀ n ∈ first :: rest, low < n :=
  List.forall_mem_cons.mpr ⟨below, fun n member => Nat.lt_trans below (above n member)⟩

theorem merge_ascending (f : Bool → Bool → Bool) (a : Bool) {xs : List Nat} (b : Bool)
    {ys : List Nat} (left : xs.Pairwise (· < ·)) (right : ys.Pairwise (· < ·)) :
    (merge f a xs b ys).Pairwise (· < ·) := by
  have pairwise_flipAt {bound : Nat} {rest : List Nat} (before after : Bool)
      (beyond : ∀ later ∈ rest, bound < later) (ascending : rest.Pairwise (· < ·)) :
      (flipAt bound before after rest).Pairwise (· < ·) := by
    unfold flipAt
    split
    · exact ascending
    · exact List.pairwise_cons.mpr ⟨beyond, ascending⟩
  induction xs generalizing a b ys with
  | nil =>
    unfold merge
    split
    · exact .nil
    · exact right
  | cons x xs ih =>
    obtain ⟨aboveX, leftRest⟩ := List.pairwise_cons.mp left
    induction ys generalizing b with
    | nil =>
      rw [merge_cons_nil]
      exact pairwise_flipAt _ _ (lt_of_mem_merge aboveX (by simp)) (ih _ _ leftRest right)
    | cons y ys within =>
      obtain ⟨aboveY, rightRest⟩ := List.pairwise_cons.mp right
      rw [merge_cons_cons]
      split
      · next first =>
        exact pairwise_flipAt _ _ (lt_of_mem_merge (lt_of_mem_cons first aboveX) aboveY)
          (within _ rightRest)
      · split
        · next first =>
          exact pairwise_flipAt _ _ (lt_of_mem_merge aboveX (lt_of_mem_cons first aboveY))
            (ih _ _ leftRest right)
        · next notBelow notAbove =>
          obtain rfl : x = y := by omega
          exact pairwise_flipAt _ _ (lt_of_mem_merge aboveX aboveY) (ih _ _ leftRest rightRest)

theorem inside_of_lt {n : Nat} {bounds : List Nat} (beyond : ∀ bound ∈ bounds, n < bound)
    (state : Bool) : inside n state bounds = state := by
  cases bounds with
  | nil => rfl
  | cons bound rest => simp [inside, beyond bound (by simp)]

private theorem inside_flipAt {bound : Nat} {rest : List Nat}
    (beyond : ∀ later ∈ rest, bound < later) (n : Nat) (before after : Bool) :
    inside n before (flipAt bound before after rest) =
      if n < bound then before else inside n after rest := by
  unfold flipAt
  split
  · next same =>
    split
    · next low => exact inside_of_lt (fun later here => Nat.lt_trans low (beyond later here)) _
    · rw [same]
  · next differ =>
    have opposite : after = !before := by
      cases before <;> cases after <;> simp_all
    rw [inside, opposite]

/-- Where only the right set has bounds left, what is left of it decides. -/
private theorem inside_merge_nil (f : Bool → Bool → Bool) (n : Nat) (a b : Bool) (ys : List Nat) :
    inside n (f a b) (merge f a [] b ys) = f a (inside n b ys) := by
  unfold merge
  split
  · next same =>
    rw [inside]
    have constant (state : Bool) : f a b = f a state := by
      cases state <;> cases b <;> simp_all
    exact constant _
  · next differ =>
    induction ys generalizing b with
    | nil => rfl
    | cons y ys ih =>
      have opposite : f a (!b) = !f a b := by
        cases old : f a b <;> cases new : f a !b <;> simp_all
      rw [inside, inside]
      split
      · rfl
      · rw [← opposite]
        exact ih (!b) (by rw [Bool.not_not]; exact fun same => differ same.symm)

/-- A code point is in the combination as `f` tells from its membership in both sets. -/
theorem inside_merge (f : Bool → Bool → Bool) (n : Nat) (a : Bool) {xs : List Nat} (b : Bool)
    {ys : List Nat} (left : xs.Pairwise (· < ·)) (right : ys.Pairwise (· < ·)) :
    inside n (f a b) (merge f a xs b ys) = f (inside n a xs) (inside n b ys) := by
  induction xs generalizing a b ys with
  | nil => exact inside_merge_nil f n a b ys
  | cons x xs ih =>
    obtain ⟨aboveX, leftRest⟩ := List.pairwise_cons.mp left
    induction ys generalizing b with
    | nil =>
      rw [merge_cons_nil, inside_flipAt (lt_of_mem_merge aboveX (by simp)), ih _ _ leftRest right]
      simp only [inside]
      split <;> rfl
    | cons y ys within =>
      obtain ⟨aboveY, rightRest⟩ := List.pairwise_cons.mp right
      rw [merge_cons_cons]
      split
      · next first =>
        have beyond := lt_of_mem_cons first aboveX
        rw [inside_flipAt (lt_of_mem_merge beyond aboveY), within _ rightRest,
          inside.eq_2 n b y ys]
        split
        · next low =>
          rw [inside_of_lt fun bound here => Nat.lt_trans low (beyond bound here)]
        · rfl
      · split
        · next first =>
          have beyond := lt_of_mem_cons first aboveY
          rw [inside_flipAt (lt_of_mem_merge aboveX beyond), ih _ _ leftRest right,
            inside.eq_2 n a x xs]
          split
          · next low =>
            rw [inside_of_lt fun bound here => Nat.lt_trans low (beyond bound here)]
          · rfl
        · next notBelow notAbove =>
          obtain rfl : x = y := by omega
          rw [inside_flipAt (lt_of_mem_merge aboveX aboveY), ih _ _ leftRest rightRest, inside,
            inside]
          split <;> rfl

def empty : CharSet := ⟨[], .nil⟩

def isEmpty (set : CharSet) : Bool := set.bounds.isEmpty

/-- The code points from `first` to `last`. -/
def range (first last : Nat) : CharSet :=
  if ordered : first ≤ last then
    ⟨[first, last + 1], List.pairwise_pair.mpr (Nat.lt_succ_of_le ordered)⟩
  else empty

def single (c : Char) : CharSet := range c.toNat c.toNat

/-- The code points that `f` picks by membership in two sets; what is in neither is not picked. -/
def combine (f : Bool → Bool → Bool) (left right : CharSet) : CharSet :=
  ⟨merge f false left.bounds false right.bounds,
    merge_ascending f false false left.ascending right.ascending⟩

def union (left right : CharSet) : CharSet := combine or left right

def inter (left right : CharSet) : CharSet := combine and left right

def diff (left right : CharSet) : CharSet := combine (fun a b => a && !b) left right

/-- What lies in exactly one of the two sets. -/
def symmDiff (left right : CharSet) : CharSet := combine xor left right

/-- Every character. -/
def all : CharSet := range 0 0x10FFFF

def compl (set : CharSet) : CharSet := all.diff set

def unions (sets : List CharSet) : CharSet := sets.foldr union empty

def ofRanges (ranges : List (Nat × Nat)) : CharSet :=
  unions (ranges.map fun (first, last) => range first last)

def ofChars (chars : List Char) : CharSet := unions (chars.map single)

@[simp] theorem contains_empty (c : Char) : empty.contains c = false := rfl

@[simp] theorem contains_range (first last : Nat) (c : Char) :
    (range first last).contains c = (decide (first ≤ c.toNat) && decide (c.toNat ≤ last)) := by
  unfold range contains
  split
  · simp only [inside]
    grind
  · simp only [empty, inside]
    grind

@[simp] theorem contains_single (a c : Char) : (single a).contains c = (a == c) := by
  rw [single, contains_range, Bool.eq_iff_iff, Bool.and_eq_true, decide_eq_true_eq,
    decide_eq_true_eq, beq_iff_eq, ← Char.toNat_inj]
  omega

theorem contains_combine {f : Bool → Bool → Bool} (neither : f false false = false)
    (left right : CharSet) (c : Char) :
    (combine f left right).contains c = f (left.contains c) (right.contains c) := by
  have merged := inside_merge f c.toNat false false left.ascending right.ascending
  rw [neither] at merged
  exact merged

@[simp] theorem contains_union (left right : CharSet) (c : Char) :
    (left.union right).contains c = (left.contains c || right.contains c) :=
  contains_combine rfl left right c

@[simp] theorem contains_inter (left right : CharSet) (c : Char) :
    (left.inter right).contains c = (left.contains c && right.contains c) :=
  contains_combine rfl left right c

@[simp] theorem contains_diff (left right : CharSet) (c : Char) :
    (left.diff right).contains c = (left.contains c && !right.contains c) :=
  contains_combine rfl left right c

@[simp] theorem contains_symmDiff (left right : CharSet) (c : Char) :
    (left.symmDiff right).contains c = (left.contains c ^^ right.contains c) :=
  contains_combine rfl left right c

@[simp] theorem contains_all (c : Char) : all.contains c = true := by
  rw [all, contains_range, Bool.and_eq_true, decide_eq_true_eq, decide_eq_true_eq]
  have valid : c.toNat < 0xD800 ∨ 0xDFFF < c.toNat ∧ c.toNat < 0x110000 := c.valid
  omega

@[simp] theorem contains_compl (set : CharSet) (c : Char) :
    set.compl.contains c = !set.contains c := by
  rw [compl, contains_diff, contains_all, Bool.true_and]

theorem contains_unions (sets : List CharSet) (c : Char) :
    (unions sets).contains c = sets.any (·.contains c) := by
  induction sets with
  | nil => rfl
  | cons set sets ih => rw [unions, List.foldr_cons, contains_union, List.any_cons, ← ih, unions]

end CharSet

end FilterList.Unicode
