import Descent.Proofs.Order.Binary64
import Descent.Proofs.Text.ByteOrder
import Descent.Token

/-!
# Tokens are compared by kind and value

Tokens are compared by their kinds, and where these are equal by their values. Whatever laws the
kinds keep the tokens keep too (`LawfulPartialOrder.tokens`), even if some kinds are incomparable or
unequal to themselves. Where no kinds are, the tokens are in a total order, and both ways to compare
them agree. Where a token begins and ends plays no part in any of this.
-/

namespace Descent

variable {κ : Type}

namespace Token

theorem beq_iff [BEq κ] {t u : Token κ} : t == u ↔ t.kind == u.kind ∧ t.value = u.value := by
  change (t.kind == u.kind && t.value == u.value) = true ↔ _
  rw [Bool.and_eq_true, beq_iff_eq (a := t.value)]

variable {compareKind? : κ → κ → Option Ordering} {t u : Token κ}

/-- The values decide where the kinds are equal. -/
theorem partialOrder_eq (t u : Token κ) :
    partialOrder compareKind? t u =
      (compareKind? t.kind u.kind).map (·.then (compare t.value u.value)) := by
  rw [partialOrder]
  cases compareKind? t.kind u.kind with
  | none => rfl
  | some o => cases o <;> rfl

/-- Two tokens compare as equal if their kinds do and their values are the same. -/
theorem partialOrder_eq_some_eq_iff :
    partialOrder compareKind? t u = some .eq ↔
      compareKind? t.kind u.kind = some .eq ∧ t.value = u.value := by
  rw [partialOrder_eq, ← Std.LawfulEqOrd.compare_eq_iff_eq (a := t.value)]
  cases compareKind? t.kind u.kind with
  | none => simp
  | some o => simp [Ordering.then_eq_eq]

/-- The kinds decide which token is less, and the values do so between equal kinds. -/
theorem partialOrder_eq_some_lt_iff :
    partialOrder compareKind? t u = some .lt ↔
      compareKind? t.kind u.kind = some .lt ∨
        compareKind? t.kind u.kind = some .eq ∧ compare t.value u.value = .lt := by
  rw [partialOrder_eq]
  cases compareKind? t.kind u.kind with
  | none => simp
  | some o => simp [Ordering.then_eq_lt]

/-- Two tokens cannot be compared if their kinds cannot be. -/
theorem partialOrder_eq_none_iff :
    partialOrder compareKind? t u = none ↔ compareKind? t.kind u.kind = none := by
  rw [partialOrder_eq, Option.map_eq_none_iff]

/-- A token is at most another if its kind is less, or if the kinds are equal and its value is at
most the other. -/
theorem atMost_iff :
    AtMost (partialOrder compareKind?) t u ↔
      compareKind? t.kind u.kind = some .lt ∨
        compareKind? t.kind u.kind = some .eq ∧ (compare t.value u.value).isLE := by
  rw [AtMost, partialOrder_eq_some_eq_iff, partialOrder_eq_some_lt_iff,
    Ordering.isLE_iff_eq_lt_or_eq_eq, Std.LawfulEqOrd.compare_eq_iff_eq]
  tauto

/-- **Tokens keep the laws that their kinds keep.** -/
theorem lawfulPartialOrder [BEq κ] (h : LawfulPartialOrder compareKind?) :
    LawfulPartialOrder (partialOrder compareKind?) where
  eq_iff := by
    intro t u
    rw [partialOrder_eq_some_eq_iff, h.eq_iff, beq_iff]
  swap := by
    intro t u
    rw [partialOrder_eq, partialOrder_eq, h.swap t.kind u.kind,
      Std.OrientedOrd.eq_swap (a := u.value)]
    cases compareKind? t.kind u.kind with
    | none => rfl
    | some o => simp only [Option.map_some, Ordering.swap_then]
  trans := by
    intro t u v htu huv
    rw [atMost_iff] at htu huv ⊢
    obtain htu | ⟨htu, hvalue⟩ := htu
    · exact .inl (h.lt_of_lt_of_atMost htu (huv.imp_right And.left))
    · obtain huv | ⟨huv, hvalue'⟩ := huv
      · exact .inl (h.lt_of_atMost_of_lt (.inr htu) huv)
      · exact .inr ⟨h.eq_trans htu huv, Std.TransOrd.isLE_trans hvalue hvalue'⟩

/-- If all kinds are comparable, so are all tokens, and both ways to compare them agree. -/
theorem partialOrder_eq_some_order {compareKind : κ → κ → Ordering}
    (hkind : ∀ a b, compareKind? a b = some (compareKind a b)) (t u : Token κ) :
    partialOrder compareKind? t u = some (order compareKind t u) := by
  rw [partialOrder_eq, hkind]
  rfl

theorem equivBEq_of_total [BEq κ] {cmp : Token κ → Token κ → Ordering} (htrans : Std.TransCmp cmp)
    (heq : Std.LawfulBEqCmp cmp) : EquivBEq (Token κ) where
  rfl := heq.compare_eq_iff_beq.1 Std.ReflCmp.compare_self
  symm h := heq.compare_eq_iff_beq.1 (Std.OrientedCmp.eq_symm (heq.compare_eq_iff_beq.2 h))
  trans h h' := heq.compare_eq_iff_beq.1 <|
    Std.TransCmp.eq_trans (heq.compare_eq_iff_beq.2 h) (heq.compare_eq_iff_beq.2 h')

/-- **The comparison of tokens is lawful, and it does not look at offsets.** If the kinds are in a
total order that agrees with their equality then so are the tokens: equal is what compares as equal,
one of two tokens is always at most the other, and both of them only if they are equal; and to
compare where there may be no answer gives that answer. If the kinds are only in a partial order,
and perhaps not even equal to themselves, the tokens are in one too, and two of them are comparable
if and only if their kinds are. Other offsets change nothing. Where the values decide, their bytes
do, and that is to say their code points. -/
theorem comparison_lawful [BEq κ] :
    (∀ (compareKind : κ → κ → Ordering) (compareKind? : κ → κ → Option Ordering),
      Std.TransCmp compareKind → Std.LawfulBEqCmp compareKind →
      (∀ a b, compareKind? a b = some (compareKind a b)) →
        Std.TransCmp (order compareKind) ∧ Std.LawfulBEqCmp (order compareKind) ∧
        EquivBEq (Token κ) ∧
        (∀ t u, (order compareKind t u).isLE ∨ (order compareKind u t).isLE) ∧
        (∀ t u, (order compareKind t u).isLE → (order compareKind u t).isLE → t == u) ∧
        ∀ t u, partialOrder compareKind? t u = some (order compareKind t u)) ∧
    (∀ compareKind? : κ → κ → Option Ordering, LawfulPartialOrder compareKind? →
      (∀ t u, partialOrder compareKind? t u = some .eq ↔ t == u) ∧
      (∀ t u, partialOrder compareKind? u t = (partialOrder compareKind? t u).map Ordering.swap) ∧
      (∀ t u v, partialOrder compareKind? t u = some .lt →
        partialOrder compareKind? u v = some .lt → partialOrder compareKind? t v = some .lt) ∧
      ∀ t u, partialOrder compareKind? t u = none ↔ compareKind? t.kind u.kind = none) ∧
    (∀ (compareKind : κ → κ → Ordering) (compareKind? : κ → κ → Option Ordering) (t u : Token κ)
        (a b c d : Nat),
      let t' := { t with start := a, stop := b }
      let u' := { u with start := c, stop := d }
      order compareKind t' u' = order compareKind t u ∧
        partialOrder compareKind? t' u' = partialOrder compareKind? t u ∧ (t' == u') = (t == u)) ∧
    ∀ s s' : String, compare s s' = compare (Text.bytes s) (Text.bytes s') ∧
      compare s s' = compare (s.toList.map Char.toNat) (s'.toList.map Char.toNat) := by
  refine ⟨fun compareKind compareKind? htrans heq hkind => ?_, fun compareKind? hkind => ?_,
    fun _ _ t u a b c d => ⟨rfl, rfl, rfl⟩,
    fun s s' => ⟨(Text.compare_bytes s s').symm, (Text.compare_codePoints s s').symm⟩⟩
  · have htotal := partialOrder_eq_some_order hkind
    have hlawful := lawfulPartialOrder ((LawfulPartialOrder.iff_of_total hkind).2 ⟨htrans, heq⟩)
    obtain ⟨htrans', heq'⟩ := (LawfulPartialOrder.iff_of_total htotal).1 hlawful
    refine ⟨htrans', heq', equivBEq_of_total htrans' heq', fun t u => ?_, fun t u htu hut => ?_,
      htotal⟩
    · have hswap : order compareKind u t = (order compareKind t u).swap :=
        Std.OrientedCmp.eq_swap
      rw [hswap]
      cases order compareKind t u <;> decide
    · exact heq'.compare_eq_iff_beq.1 (Std.OrientedCmp.isLE_antisymm htu hut)
  · have hlawful := lawfulPartialOrder hkind
    exact ⟨fun t u => hlawful.eq_iff, hlawful.swap, fun t u v => hlawful.lt_trans,
      fun t u => partialOrder_eq_none_iff⟩

/-- Whole numbers are kinds in a total order, and floating point numbers are kinds in a partial one
in which what is no number is not even equal to itself. -/
theorem comparison_lawful_of_numbers :
    Std.TransCmp (order (compare : Int → Int → Ordering)) ∧ EquivBEq (Token Int) ∧
      LawfulPartialOrder Binary64.order? ∧
      let t : Token Binary64 := ⟨.nan, "x", 0, 1⟩
      partialOrder Binary64.order? t t = none ∧ (t == t) = false := by
  obtain ⟨htotal, -⟩ := comparison_lawful (κ := Int)
  obtain ⟨htrans, -, hequiv, -⟩ := htotal compare (fun a b => some (compare a b)) inferInstance
    inferInstance fun _ _ => rfl
  obtain ⟨-, hpartial, -⟩ := comparison_lawful (κ := Binary64)
  obtain ⟨heq, -, -, hnone⟩ := hpartial Binary64.order? Binary64.lawfulPartialOrder
  refine ⟨htrans, hequiv, Binary64.lawfulPartialOrder, (hnone _ _).2 rfl, ?_⟩
  rw [← Bool.not_eq_true, ← heq, (hnone _ _).2 rfl]
  nofun

end Token

end Descent
