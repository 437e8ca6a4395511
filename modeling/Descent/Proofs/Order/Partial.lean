import Mathlib.Order.Compare

/-!
# Orders in which not everything is comparable

A comparison that may have no answer keeps the laws of an order (`LawfulPartialOrder`) if it agrees
with equality, turns around when it is swapped, and is transitive where it says "no greater". Things
may be unequal to themselves, and then they are not comparable with themselves either. If there
always is an answer, these are the laws of a total order (`iff_of_total`). To compare by a rank in
a total order keeps the laws too, though some things may have no rank (`of_rank`).
-/

namespace Descent

variable {α : Type}

/-- Comparable, and the first is no greater. -/
def AtMost (compare? : α → α → Option Ordering) (a b : α) : Prop :=
  compare? a b = some .lt ∨ compare? a b = some .eq

/-- The laws of an order in which not everything is comparable, and some things may be unequal to
themselves. -/
structure LawfulPartialOrder [BEq α] (compare? : α → α → Option Ordering) : Prop where
  /-- it agrees with equality -/
  eq_iff {a b : α} : compare? a b = some .eq ↔ a == b
  /-- to swap what is compared turns the answer around -/
  swap (a b : α) : compare? b a = (compare? a b).map Ordering.swap
  /-- to be no greater is transitive -/
  trans {a b c : α} : AtMost compare? a b → AtMost compare? b c → AtMost compare? a c

namespace LawfulPartialOrder

variable [BEq α] {compare? : α → α → Option Ordering} {a b c : α}

theorem eq_symm (h : LawfulPartialOrder compare?) (hab : compare? a b = some .eq) :
    compare? b a = some .eq := by
  rw [h.swap a b, hab]
  rfl

theorem not_atMost_of_lt (h : LawfulPartialOrder compare?) (hab : compare? a b = some .lt) :
    ¬ AtMost compare? b a := by
  rw [AtMost, h.swap a b, hab]
  decide

theorem lt_of_lt_of_atMost (h : LawfulPartialOrder compare?) (hab : compare? a b = some .lt)
    (hbc : AtMost compare? b c) : compare? a c = some .lt := by
  refine (h.trans (.inl hab) hbc).resolve_right fun hac => ?_
  exact h.not_atMost_of_lt hab (h.trans hbc (.inr (h.eq_symm hac)))

theorem lt_of_atMost_of_lt (h : LawfulPartialOrder compare?) (hab : AtMost compare? a b)
    (hbc : compare? b c = some .lt) : compare? a c = some .lt := by
  refine (h.trans hab (.inl hbc)).resolve_right fun hac => ?_
  exact h.not_atMost_of_lt hbc (h.trans (.inr (h.eq_symm hac)) hab)

theorem lt_trans (h : LawfulPartialOrder compare?) (hab : compare? a b = some .lt)
    (hbc : compare? b c = some .lt) : compare? a c = some .lt :=
  h.lt_of_lt_of_atMost hab (.inl hbc)

theorem eq_trans (h : LawfulPartialOrder compare?) (hab : compare? a b = some .eq)
    (hbc : compare? b c = some .eq) : compare? a c = some .eq := by
  refine (h.trans (.inr hab) (.inr hbc)).resolve_left fun hac => ?_
  exact h.not_atMost_of_lt hac (h.trans (.inr (h.eq_symm hbc)) (.inr (h.eq_symm hab)))

/-- Where everything is comparable, the laws are those of a total order. -/
theorem iff_of_total {cmp : α → α → Ordering} (hcmp : ∀ a b, compare? a b = some (cmp a b)) :
    LawfulPartialOrder compare? ↔ Std.TransCmp cmp ∧ Std.LawfulBEqCmp cmp := by
  have hatMost (a b : α) : AtMost compare? a b ↔ (cmp a b).isLE := by
    rw [AtMost, hcmp]
    cases cmp a b <;> decide
  constructor
  · intro h
    have horiented : Std.OrientedCmp cmp := by
      refine ⟨fun {a b} => Option.some.inj ?_⟩
      rw [← hcmp, h.swap b a, hcmp]
      rfl
    refine ⟨⟨fun {a b c} hab hbc => ?_⟩, ⟨fun {a b} => ?_⟩⟩
    · rw [← hatMost] at hab hbc ⊢
      exact h.trans hab hbc
    · rw [← h.eq_iff, hcmp, Option.some.injEq]
  · rintro ⟨htrans, heq⟩
    refine ⟨fun {a b} => ?_, fun a b => ?_, fun {a b c} hab hbc => ?_⟩
    · rw [hcmp, Option.some.injEq]
      exact heq.compare_eq_iff_beq
    · have hswap : cmp b a = (cmp a b).swap := Std.OrientedCmp.eq_swap
      rw [hcmp, hcmp, hswap]
      rfl
    · rw [hatMost] at hab hbc ⊢
      exact htrans.isLE_trans hab hbc

/-- To compare by rank keeps the laws. What has no rank is not comparable. -/
theorem of_rank {β : Type} [LinearOrder β] {rank? : α → Option β}
    (heq : ∀ a b, compare? a b = some .eq ↔ a == b)
    (hrank : ∀ a b, compare? a b = (rank? a).bind fun x => (rank? b).map (compare x)) :
    LawfulPartialOrder compare? := by
  have hatMost (a b : α) :
      AtMost compare? a b ↔ ∃ x y, rank? a = some x ∧ rank? b = some y ∧ x ≤ y := by
    rw [AtMost, hrank]
    cases rank? a <;> cases rank? b <;> simp [compare_lt_iff_lt, le_iff_lt_or_eq]
  refine ⟨fun {a b} => heq a b, fun a b => ?_, fun {a b c} hab hbc => ?_⟩
  · rw [hrank, hrank]
    cases rank? a with
    | none => cases rank? b <;> rfl
    | some x =>
      cases rank? b with
      | none => rfl
      | some y => exact congrArg some Std.OrientedOrd.eq_swap
  · obtain ⟨x, y, hx, hy, hxy⟩ := (hatMost a b).1 hab
    obtain ⟨y', z, hy', hz, hyz⟩ := (hatMost b c).1 hbc
    obtain rfl := Option.some.inj (hy.symm.trans hy')
    exact (hatMost a c).2 ⟨x, z, hx, hz, hxy.trans hyz⟩

end LawfulPartialOrder

end Descent
