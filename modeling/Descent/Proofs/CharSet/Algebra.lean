import Mathlib.Data.List.Chain
import Mathlib.Data.List.Pairwise
import Descent.CharSet

/-!
# The algebra of sets of characters

All algebra of sets is one walk through the places of two sets. At each place the walk passes
(`CharSet.Passes`) it knows the memberships in the two sets, and it writes the place down if the
wanted combination of them changes there. So a character is in the result if its memberships are
wanted (`CharSet.contains_zip`), and that is all there is to know of the walk.

For this the places of both sets may not fall (`CharSet.Rising`), and then those of the result do
not fall either. Of sets that are given it can be decided whether the places are in order, and so
can the questions whether two sets have a character in common (`CharSet.not_contains_of_inter`) and
whether one is part of the other (`CharSet.contains_of_diff`).
-/

namespace Descent.CharSet

/-! ## Membership -/

/-- The places of the set are in order. -/
def Ordered (s : CharSet) : Prop := s.breaks.Pairwise (· < ·)

/-- To decide this, each place is compared to the next one only. -/
instance (s : CharSet) : Decidable s.Ordered :=
  decidable_of_iff (s.breaks.IsChain (· < ·)) List.isChain_iff_pairwise

/-- The places of the set do not fall. Two that are equal undo each other. -/
def Rising (s : CharSet) : Prop := s.breaks.Pairwise (· ≤ ·)

theorem Ordered.rising {s : CharSet} (h : s.Ordered) : s.Rising := h.imp Nat.le_of_lt

variable {n x y : Nat} {bs xs xs' ys ys' : List Nat}

/-- A code point before the first place is not in the set. -/
theorem inside_cons_of_lt (h : n < x) : inside (x :: bs) n = false := if_pos h

/-- Behind the first place membership is turned round. -/
theorem inside_cons_of_le (h : x ≤ n) : inside (x :: bs) n = !inside bs n :=
  if_neg (Nat.not_lt.2 h)

/-- Before its first place nothing is in a set. -/
theorem inside_of_lt (hbs : (x :: bs).Pairwise (· ≤ ·)) (h : n < x) : inside bs n = false := by
  cases bs with
  | nil => rfl
  | cons b bs =>
    exact inside_cons_of_lt (Nat.lt_of_lt_of_le h (List.rel_of_pairwise_cons hbs (.head _)))

/-! ## The walk -/

variable {op : Bool → Bool → Bool} {a a' b b' now : Bool}

/-- At the place `x` a walk goes from membership `a`, with the places `xs` left, to membership `a'`,
with `xs'` left. This is right for the code point `n`: it is either before all the places, or its
membership stays what it was. -/
structure Passes (n x : Nat) (a : Bool) (xs : List Nat) (a' : Bool) (xs' : List Nat) : Prop where
  before : n < x → inside xs n = false ∧ inside xs' n = false
  behind : x ≤ n → xor a (inside xs n) = xor a' (inside xs' n)

namespace Passes

/-- The place is one of the set. -/
theorem change (hxs : (x :: xs).Pairwise (· ≤ ·)) (a : Bool) : Passes n x a (x :: xs) (!a) xs where
  before h := ⟨inside_cons_of_lt h, inside_of_lt hxs h⟩
  behind h := by rw [inside_cons_of_le h, Bool.not_xor, Bool.xor_not]

/-- The place is before all those of the set. -/
theorem keep (hxy : x < y) (a : Bool) (ys : List Nat) : Passes n x a (y :: ys) a (y :: ys) where
  before h := ⟨inside_cons_of_lt (Nat.lt_trans h hxy), inside_cons_of_lt (Nat.lt_trans h hxy)⟩
  behind _ := rfl

/-- There are no more places in the set. -/
theorem nil (a : Bool) : Passes n x a [] a [] := ⟨fun _ => ⟨rfl, rfl⟩, fun _ => rfl⟩

/-- If a walk is right behind a place that it passes, then it is right before it, with the place
written down where the combination changes. -/
theorem mark {rest : Bool → List Nat} (hxs : Passes n x a xs a' xs') (hys : Passes n x b ys b' ys')
    (hnow : now = op a b)
    (hrest : xor (op a' b') (inside (rest (op a' b')) n) =
      op (xor a' (inside xs' n)) (xor b' (inside ys' n))) :
    xor now (inside (mark now (op a' b') x rest) n) =
      op (xor a (inside xs n)) (xor b (inside ys n)) := by
  unfold CharSet.mark
  rcases Nat.lt_or_ge n x with hlt | hle
  · obtain ⟨hx, hx'⟩ := hxs.before hlt
    obtain ⟨hy, hy'⟩ := hys.before hlt
    rw [hx, hy, Bool.xor_false, Bool.xor_false, ← hnow]
    split
    · rename_i heq
      rw [hx', hy', Bool.xor_false, Bool.xor_false, heq] at hrest
      exact hrest
    · rw [inside_cons_of_lt hlt, Bool.xor_false]
  · rw [hxs.behind hle, hys.behind hle, ← hrest]
    split
    · rename_i heq
      rw [heq]
    · rename_i hne
      rw [inside_cons_of_le hle, Bool.eq_not_of_ne hne, Bool.not_xor, Bool.xor_not]

end Passes

/-- The walk is right where the first set has no more places. -/
theorem xor_inside_combineRight (hys : ys.Pairwise (· ≤ ·)) (hnow : now = op a b) :
    xor now (inside (combineRight op a ys b now) n) =
      op (xor a (inside [] n)) (xor b (inside ys n)) := by
  induction ys generalizing b now with
  | nil => rw [combineRight, inside, Bool.xor_false, Bool.xor_false, Bool.xor_false, hnow]
  | cons y ys ih => exact (Passes.nil a).mark (.change hys b) hnow (ih hys.of_cons rfl)

/-- The walk up to a place `x` of the first set, if `after` is right from there on. -/
theorem xor_inside_combineUpTo {after : List Nat → Bool → Bool → Bool → List Nat}
    (hxs : (x :: xs).Pairwise (· ≤ ·))
    (hafter : ∀ {ys b}, ys.Pairwise (· ≤ ·) →
      xor (op (!a) b) (inside (after ys (!a) b (op (!a) b)) n) =
        op (xor (!a) (inside xs n)) (xor b (inside ys n)))
    (hys : ys.Pairwise (· ≤ ·)) (hnow : now = op a b) :
    xor now (inside (combineUpTo op x a after ys b now) n) =
      op (xor a (inside (x :: xs) n)) (xor b (inside ys n)) := by
  induction ys generalizing b now with
  | nil => exact (Passes.change hxs a).mark (.nil b) hnow (hafter .nil)
  | cons y ys ih =>
    rw [combineUpTo]
    split
    · rename_i hxy
      exact (Passes.change hxs a).mark (.keep hxy b ys) hnow (hafter hys)
    split
    · rename_i hyx
      exact (Passes.keep hyx a xs).mark (.change hys b) hnow (ih hys.of_cons rfl)
    · rename_i hxy hyx
      obtain rfl : x = y := Nat.le_antisymm (Nat.not_lt.1 hyx) (Nat.not_lt.1 hxy)
      exact (Passes.change hxs a).mark (.change hys b) hnow (hafter hys.of_cons)

/-- **The walk is right**: what it writes down changes from the combination at its start as the
memberships in the two sets change. -/
theorem xor_inside_combine (hxs : xs.Pairwise (· ≤ ·)) (hys : ys.Pairwise (· ≤ ·))
    (hnow : now = op a b) :
    xor now (inside (combine op xs ys a b now) n) =
      op (xor a (inside xs n)) (xor b (inside ys n)) := by
  induction xs generalizing ys a b now with
  | nil => exact xor_inside_combineRight hys hnow
  | cons x xs ih => exact xor_inside_combineUpTo hxs (fun hys => ih hxs.of_cons hys rfl) hys hnow

/-! ## The places that are written down -/

section Places

variable {lo : Nat} {rest : Bool → List Nat}

/-- The first place may be put further to the front. -/
theorem rising_of_le (h : lo ≤ x) (hxs : (x :: xs).Pairwise (· ≤ ·)) :
    (lo :: xs).Pairwise (· ≤ ·) :=
  List.pairwise_cons.2 ⟨fun _ hy => Nat.le_trans h (List.rel_of_pairwise_cons hxs hy), hxs.of_cons⟩

/-- A place may be put before the first one. -/
theorem rising_cons (h : lo ≤ x) (hxs : (x :: xs).Pairwise (· ≤ ·)) :
    (lo :: x :: xs).Pairwise (· ≤ ·) :=
  List.pairwise_cons.2 ⟨List.forall_mem_cons.2
    ⟨h, fun _ hy => Nat.le_trans h (List.rel_of_pairwise_cons hxs hy)⟩, hxs⟩

/-- If what follows a place does not fall, neither does it with the place or without. -/
theorem rising_mark {next : Bool} (h : lo ≤ x) (hrest : ∀ now, (x :: rest now).Pairwise (· ≤ ·)) :
    (lo :: mark now next x rest).Pairwise (· ≤ ·) := by
  rw [mark]
  split
  · exact rising_of_le h (hrest now)
  · exact rising_cons h (hrest next)

/-- Where the first set has no more places, those that are written down do not fall. -/
theorem rising_combineRight (hys : (lo :: ys).Pairwise (· ≤ ·)) :
    (lo :: combineRight op a ys b now).Pairwise (· ≤ ·) := by
  induction ys generalizing lo b now with
  | nil => exact hys
  | cons y ys ih =>
    exact rising_mark (List.rel_of_pairwise_cons hys (.head _)) fun _ => ih hys.of_cons

/-- Up to a place of the first set, the places that are written down do not fall. -/
theorem rising_combineUpTo {after : List Nat → Bool → Bool → Bool → List Nat} (h : lo ≤ x)
    (hafter : ∀ {ys a b now}, (x :: ys).Pairwise (· ≤ ·) →
      (x :: after ys a b now).Pairwise (· ≤ ·))
    (hys : (lo :: ys).Pairwise (· ≤ ·)) :
    (lo :: combineUpTo op x a after ys b now).Pairwise (· ≤ ·) := by
  induction ys generalizing lo b now with
  | nil => exact rising_mark h fun _ => hafter (List.pairwise_singleton _ x)
  | cons y ys ih =>
    rw [combineUpTo]
    split
    · rename_i hxy
      exact rising_mark h fun _ => hafter (rising_cons (Nat.le_of_lt hxy) hys.of_cons)
    split
    · rename_i hyx
      exact rising_mark (List.rel_of_pairwise_cons hys (.head _)) fun _ =>
        ih (Nat.le_of_lt hyx) hys.of_cons
    · rename_i hyx
      exact rising_mark h fun _ => hafter (rising_of_le (Nat.not_lt.1 hyx) hys.of_cons)

/-- What the walk writes down does not fall if the places of both sets do not. -/
theorem rising_combine (hxs : (lo :: xs).Pairwise (· ≤ ·)) (hys : (lo :: ys).Pairwise (· ≤ ·)) :
    (lo :: combine op xs ys a b now).Pairwise (· ≤ ·) := by
  induction xs generalizing lo ys a b now with
  | nil => exact rising_combineRight hys
  | cons x xs ih =>
    exact rising_combineUpTo (List.rel_of_pairwise_cons hxs (.head _))
      (fun hys => ih hxs.of_cons hys) hys

/-- The places of a combination do not fall. -/
theorem Rising.zip {s t : CharSet} (hs : s.Rising) (ht : t.Rising) : (zip op s t).Rising := by
  have hzero {l : List Nat} (h : l.Pairwise (· ≤ ·)) : (0 :: l).Pairwise (· ≤ ·) :=
    List.pairwise_cons.2 ⟨fun _ _ => Nat.zero_le _, h⟩
  exact (rising_combine (hzero hs) (hzero ht)).of_cons

end Places

/-! ## The sets -/

variable {s t : CharSet} {c : Char}

/-- **A code point is in the combination of two sets if its memberships are wanted.** -/
theorem inside_zip (hop : op false false = false) (hs : s.Rising) (ht : t.Rising) (n : Nat) :
    inside (zip op s t).breaks n = op (inside s.breaks n) (inside t.breaks n) := by
  have hwalk : xor false (inside (zip op s t).breaks n) =
      op (xor false (inside s.breaks n)) (xor false (inside t.breaks n)) :=
    xor_inside_combine hs ht hop.symm
  rwa [Bool.false_xor, Bool.false_xor, Bool.false_xor] at hwalk

/-- The same of characters. -/
theorem contains_zip (hop : op false false = false) (hs : s.Ordered) (ht : t.Ordered) :
    (zip op s t).contains c = op (s.contains c) (t.contains c) :=
  inside_zip hop hs.rising ht.rising c.toNat

theorem single_eq (c : Char) : single c = ⟨[c.toNat, c.toNat + 1]⟩ := by
  rw [single, range, if_neg (Char.lt_irrefl c), if_neg (by omega)]

/-- The set of one character has no other. -/
theorem contains_single {d : Char} : (single d).contains c = true ↔ c = d := by
  rw [single_eq, contains, ← Char.toNat_inj]
  obtain hlt | heq | hgt := Nat.lt_trichotomy c.toNat d.toNat
  · rw [inside_cons_of_lt hlt]
    exact iff_of_false Bool.false_ne_true (Nat.ne_of_lt hlt)
  · rw [inside_cons_of_le (Nat.le_of_eq heq.symm),
      inside_cons_of_lt (Nat.lt_succ_of_le (Nat.le_of_eq heq))]
    exact iff_of_true rfl heq
  · rw [inside_cons_of_le (Nat.le_of_lt hgt), inside_cons_of_le hgt]
    exact iff_of_false Bool.false_ne_true (Nat.ne_of_gt hgt)

theorem ordered_all : all.Ordered := by decide

/-- All characters are in the set of all. -/
theorem contains_all (c : Char) : all.contains c = true := by
  have hvalid : c.toNat < 0xD800 ∨ 0xDFFF < c.toNat ∧ c.toNat < 0x110000 := c.valid
  rw [contains, all, inside_cons_of_le (Nat.zero_le _)]
  obtain hlt | ⟨hlt, hend⟩ := hvalid
  · rw [inside_cons_of_lt hlt]
    rfl
  · -- the gap of the surrogates has been passed
    have hgap : 0xD800 ≤ c.toNat := by omega
    rw [inside_cons_of_le hgap, inside_cons_of_le hlt, inside_cons_of_lt hend]
    rfl

/-- The complement of a set has all other characters. -/
theorem contains_complement (hs : s.Ordered) : s.complement.contains c = !s.contains c := by
  have hleft : s.complement.contains c = (all.contains c && !s.contains c) :=
    contains_zip rfl ordered_all hs
  rw [hleft, contains_all, Bool.true_and]

/-- Sets whose intersection is empty have no character in common. -/
theorem not_contains_of_inter (hs : s.Ordered) (ht : t.Ordered) (hempty : s.inter t = empty)
    (hc : s.contains c = true) : t.contains c = false := by
  have hboth : (s.inter t).contains c = (s.contains c && t.contains c) :=
    contains_zip rfl hs ht
  rw [hempty, hc, Bool.true_and] at hboth
  exact hboth.symm

/-- A set from which nothing is left if another is taken away is part of it. -/
theorem contains_of_diff (hs : s.Ordered) (ht : t.Ordered) (hempty : s.diff t = empty)
    (hc : s.contains c = true) : t.contains c = true := by
  have hleft : (s.diff t).contains c = (s.contains c && !t.contains c) := contains_zip rfl hs ht
  rw [hempty, hc, Bool.true_and] at hleft
  exact (Bool.not_eq_false' _).mp hleft.symm

end Descent.CharSet
