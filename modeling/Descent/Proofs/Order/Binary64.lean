import Descent.Binary64
import Descent.Proofs.Order.Partial
import Mathlib.Data.EReal.Basic
import Mathlib.Algebra.Order.Field.Power

/-!
# The order of floating point numbers

Floating point numbers are compared like the real numbers that they stand for, infinite ones at the
ends (`order?_eq`). What is no number stands for none, so it is comparable with nothing and unequal
even to itself. The two zeros stand for the same number and are equal.
-/

namespace Descent.Binary64

/-- The magnitude `m · 2 ^ e`. -/
noncomputable def magnitude (m : Nat) (e : Int) : ℝ := m * 2 ^ e

/-- The real number, perhaps infinite, that a floating point number stands for. -/
noncomputable def real? : Binary64 → Option EReal
  | .nan => none
  | .infinite s => some (if s then ⊥ else ⊤)
  | .finite s m e => some ((if s then -magnitude m e else magnitude m e : ℝ) : EReal)

theorem magnitude_nonneg (m : Nat) (e : Int) : 0 ≤ magnitude m e := by
  unfold magnitude
  positivity

theorem magnitude_eq_zero_iff {m : Nat} {e : Int} : magnitude m e = 0 ↔ m = 0 := by
  have hpow : (2 : ℝ) ^ e ≠ 0 := zpow_ne_zero e two_ne_zero
  rw [magnitude, mul_eq_zero_iff_right hpow, Nat.cast_eq_zero]

theorem numerator_eq (m : Nat) (e : Int) : (numerator m e : ℝ) = magnitude m e * denominator e := by
  have hpow : (2 : ℝ) ^ e.toNat = 2 ^ e * 2 ^ (-e).toNat := by
    rw [← zpow_natCast, ← zpow_natCast, ← zpow_add₀ two_ne_zero]
    congr 1
    omega
  rw [numerator, magnitude, denominator, Nat.pow_eq, Nat.pow_eq]
  push_cast
  rw [hpow, mul_assoc]

theorem denominator_pos (e : Int) : (0 : ℝ) < denominator e := by
  rw [denominator, Nat.pow_eq]
  positivity

theorem compare_congr {α β : Type} [LinearOrder α] [LinearOrder β] {a b : α} {x y : β}
    (hlt : a < b ↔ x < y) (hgt : b < a ↔ y < x) : compare a b = compare x y := by
  rcases lt_trichotomy a b with h | h | h
  · rw [compare_lt_iff_lt.2 h, compare_lt_iff_lt.2 (hlt.1 h)]
  · have hxy : x = y := le_antisymm (not_lt.1 (mt hgt.2 h.not_gt)) (not_lt.1 (mt hlt.2 h.not_lt))
    rw [compare_eq_iff_eq.2 h, compare_eq_iff_eq.2 hxy]
  · rw [compare_gt_iff_gt.2 h, compare_gt_iff_gt.2 (hgt.1 h)]

theorem numerator_mul_lt_iff {m n : Nat} {e f : Int} :
    numerator m e * denominator f < numerator n f * denominator e ↔
      magnitude m e < magnitude n f := by
  rw [← Nat.cast_lt (α := ℝ), Nat.cast_mul, Nat.cast_mul, numerator_eq, numerator_eq,
    mul_right_comm, mul_lt_mul_iff_left₀ (denominator_pos e),
    mul_lt_mul_iff_left₀ (denominator_pos f)]

/-- Magnitudes are compared like real numbers. -/
theorem orderMagnitude_eq (m : Nat) (e : Int) (n : Nat) (f : Int) :
    orderMagnitude m e n f = compare (magnitude m e) (magnitude n f) :=
  compare_congr numerator_mul_lt_iff numerator_mul_lt_iff

theorem compare_coe (a b : ℝ) : compare (a : EReal) (b : EReal) = compare a b :=
  compare_congr EReal.coe_lt_coe_iff EReal.coe_lt_coe_iff

/-- Finite numbers are compared like real numbers. -/
theorem order?_finite (s : Bool) (m : Nat) (e : Int) (t : Bool) (n : Nat) (f : Int) :
    order? (.finite s m e) (.finite t n f) =
      some (compare (if s then -magnitude m e else magnitude m e)
        (if t then -magnitude n f else magnitude n f)) := by
  have hm := magnitude_nonneg m e
  have hn := magnitude_nonneg n f
  simp only [order?]
  split
  · rename_i hzero
    rw [magnitude_eq_zero_iff.2 hzero.1, magnitude_eq_zero_iff.2 hzero.2, neg_zero, ite_self,
      ite_self, Std.ReflOrd.compare_self]
  · rename_i hzero
    rw [← magnitude_eq_zero_iff (e := e), ← magnitude_eq_zero_iff (m := n) (e := f)] at hzero
    have hsum : 0 < magnitude m e + magnitude n f := by
      refine lt_of_le_of_ne (add_nonneg hm hn) fun h => hzero ?_
      exact (add_eq_zero_iff_of_nonneg hm hn).1 h.symm
    cases s <;> cases t <;> simp only [if_true, Bool.false_eq_true, if_false]
    · rw [orderMagnitude_eq]
    · rw [compare_gt_iff_gt.2 (by linarith : -magnitude n f < magnitude m e)]
    · rw [compare_lt_iff_lt.2 (by linarith : -magnitude m e < magnitude n f)]
    · rw [orderMagnitude_eq]
      exact congrArg some (compare_congr neg_lt_neg_iff.symm neg_lt_neg_iff.symm)

/-- **Numbers are compared like what they stand for.** -/
theorem order?_eq (x y : Binary64) :
    order? x y = (real? x).bind fun a => (real? y).map (compare a) := by
  cases x with
  | nan => rfl
  | infinite s =>
    cases y with
    | nan => rfl
    | infinite t =>
      refine congrArg some (Eq.symm ?_)
      cases s <;> cases t
      · exact Std.ReflOrd.compare_self
      · exact compare_gt_iff_gt.2 bot_lt_top
      · exact compare_lt_iff_lt.2 bot_lt_top
      · exact Std.ReflOrd.compare_self
    | finite t n f =>
      refine congrArg some (Eq.symm ?_)
      cases s
      · exact compare_gt_iff_gt.2 (EReal.coe_lt_top _)
      · exact compare_lt_iff_lt.2 (EReal.bot_lt_coe _)
  | finite s m e =>
    cases y with
    | nan => rfl
    | infinite t =>
      refine congrArg some (Eq.symm ?_)
      cases t
      · exact compare_lt_iff_lt.2 (EReal.coe_lt_top _)
      · exact compare_gt_iff_gt.2 (EReal.bot_lt_coe _)
    | finite t n f =>
      rw [order?_finite, ← compare_coe]
      rfl

/-- The order of floating point numbers keeps the laws. -/
theorem lawfulPartialOrder : LawfulPartialOrder order? :=
  .of_rank (fun _ _ => beq_iff_eq.symm) order?_eq

end Descent.Binary64
