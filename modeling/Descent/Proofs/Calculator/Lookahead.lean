import Descent.Proofs.Calculator.Derivation
import Descent.Proofs.Parser.Lookahead

/-!
# What the calculator does next

Each function of the grammar decides by the first of the tokens that are left. This file has one
equation for each decision: what a function does there is what the grammar on the right side does
after the token. Proofs about calculations go through these equations and do not look at how tokens
are accepted.
-/

namespace Descent.Calculator

open Grammar

variable {c : Calculator} {n : Nat} {v : Int} {s : Parser Kind × Nat} {t : Token Kind}
  {stream rest : List (Token Kind)}

/-- In front of a token of one kind there is none of another. -/
theorem aheadOf?_ne {kind other : Kind} (ht : t.kind = kind) (hne : kind ≠ other) :
    aheadOf? (t :: rest) ≠ some other := by
  intro h
  exact hne (ht.symm.trans (Option.some.inj h))

/-! ## Sums -/

/-- A sum is a product and what is added to it. -/
theorem exec_sum : (c.sum (n + 1)).exec s = (c.product n >>= c.sumFrom n).exec s := by
  rw [sum]

/-- Behind a plus sign the next product is added, and the sum goes on. -/
theorem exec_sumFrom_of_plus (h : s.1.At (t :: rest)) (ht : t.kind = .plus) :
    (c.sumFrom (n + 1) v).exec s =
      (c.product n >>= fun w => within .addOverflow (v + w) >>= c.sumFrom n).exec
        (s.1.take t, s.2) := by
  rw [sumFrom, exec_bind, exec_accept?_of_at h ht]
  rfl

/-- Behind a minus sign the next product is subtracted, and the sum goes on. -/
theorem exec_sumFrom_of_minus (h : s.1.At (t :: rest)) (ht : t.kind = .minus) :
    (c.sumFrom (n + 1) v).exec s =
      (c.product n >>= fun w => within .subOverflow (v - w) >>= c.sumFrom n).exec
        (s.1.take t, s.2) := by
  rw [sumFrom, exec_bind, exec_accept?_of_ne h (aheadOf?_ne ht (by decide)), andThen_ok,
    if_neg (by decide), exec_bind, exec_accept?_of_at h ht]
  rfl

/-- There is nothing to add or to subtract. -/
theorem exec_sumFrom_of_ne (h : s.1.At stream) (hplus : aheadOf? stream ≠ some .plus)
    (hminus : aheadOf? stream ≠ some .minus) :
    (c.sumFrom (n + 1) v).exec s = (.ok v, s) := by
  rw [sumFrom, exec_bind, exec_accept?_of_ne h hplus, andThen_ok, if_neg (by decide), exec_bind,
    exec_accept?_of_ne h hminus]
  rfl

/-! ## Products -/

/-- A product is a factor and what it is multiplied with. -/
theorem exec_product : (c.product (n + 1)).exec s = (c.factor n >>= c.productFrom n).exec s := by
  rw [product]

/-- Behind a star the value is multiplied with the next factor, and the product goes on. -/
theorem exec_productFrom_of_star (h : s.1.At (t :: rest)) (ht : t.kind = .star) :
    (c.productFrom (n + 1) v).exec s =
      (c.factor n >>= fun w => within .mulOverflow (v * w) >>= c.productFrom n).exec
        (s.1.take t, s.2) := by
  rw [productFrom, exec_bind, exec_accept?_of_at h ht]
  rfl

/-- Behind a slash the value is divided by the next factor, and the product goes on. -/
theorem exec_productFrom_of_slash (h : s.1.At (t :: rest)) (ht : t.kind = .slash) :
    (c.productFrom (n + 1) v).exec s =
      (c.factor n >>= fun w => quotient v w >>= c.productFrom n).exec (s.1.take t, s.2) := by
  rw [productFrom, exec_bind, exec_accept?_of_ne h (aheadOf?_ne ht (by decide)), andThen_ok,
    if_neg (by decide), exec_bind, exec_accept?_of_at h ht]
  rfl

/-- There is nothing to multiply with or to divide by. -/
theorem exec_productFrom_of_ne (h : s.1.At stream) (hstar : aheadOf? stream ≠ some .star)
    (hslash : aheadOf? stream ≠ some .slash) :
    (c.productFrom (n + 1) v).exec s = (.ok v, s) := by
  rw [productFrom, exec_bind, exec_accept?_of_ne h hstar, andThen_ok, if_neg (by decide),
    exec_bind, exec_accept?_of_ne h hslash]
  rfl

/-! ## Factors -/

/-- A number is a factor. -/
theorem exec_factor_of_number (h : s.1.At (t :: rest)) (ht : t.kind = .number) :
    (c.factor (n + 1)).exec s = (value t).exec (s.1.take t, s.2) := by
  rw [factor, exec_bind, exec_accept?_of_at h ht]
  rfl

/-- Behind a minus sign there is a factor, whose value is negated. -/
theorem exec_factor_of_minus (h : s.1.At (t :: rest)) (ht : t.kind = .minus) :
    (c.factor (n + 1)).exec s =
      (c.factor n >>= fun w => within .negOverflow (-w)).exec (s.1.take t, s.2) := by
  rw [factor, exec_bind, exec_accept?_of_ne h (aheadOf?_ne ht (by decide)), andThen_ok, exec_bind,
    exec_accept?_of_at h ht]
  rfl

/-- What stands behind the sum in parentheses. -/
def close (v : Int) : Calculation Int := do
  match ← expect .rightParen with
  | .ok _ => return v
  | .error d => throw (.diagnostic d)

/-- Behind an opening parenthesis there is a sum and a closing one. -/
theorem exec_factor_of_leftParen (h : s.1.At (t :: rest)) (ht : t.kind = .leftParen) :
    (c.factor (n + 1)).exec s = (c.sum n >>= close).exec (s.1.take t, s.2) := by
  rw [factor, exec_bind, exec_accept?_of_ne h (aheadOf?_ne ht (by decide)), andThen_ok, exec_bind,
    exec_accept?_of_ne h (aheadOf?_ne ht (by decide)), andThen_ok, if_neg (by decide), exec_bind,
    exec_accept?_of_at h ht]
  rfl

/-- A name is replaced, and the factor is read from what it stands for. -/
theorem exec_factor_of_ident (h : s.1.At (t :: rest)) (ht : t.kind = .ident) :
    (c.factor (n + 1)).exec s = (c.expand t >>= fun _ => c.factor n).exec (s.1.take t, s.2) := by
  rw [factor, exec_bind, exec_accept?_of_ne h (aheadOf?_ne ht (by decide)), andThen_ok, exec_bind,
    exec_accept?_of_ne h (aheadOf?_ne ht (by decide)), andThen_ok, if_neg (by decide), exec_bind,
    exec_accept?_of_ne h (aheadOf?_ne ht (by decide)), andThen_ok, if_neg (by decide), exec_bind,
    exec_accept?_of_at h ht]
  rfl

/-- There is no factor. -/
theorem exec_factor_of_ne (h : s.1.At stream) (hnumber : aheadOf? stream ≠ some .number)
    (hminus : aheadOf? stream ≠ some .minus) (hparen : aheadOf? stream ≠ some .leftParen)
    (hident : aheadOf? stream ≠ some .ident) :
    (c.factor (n + 1)).exec s = (.error (.diagnostic s.1.cursor.mismatch), s) := by
  rw [factor, exec_bind, exec_accept?_of_ne h hnumber, andThen_ok, exec_bind,
    exec_accept?_of_ne h hminus, andThen_ok, if_neg (by decide), exec_bind,
    exec_accept?_of_ne h hparen, andThen_ok, if_neg (by decide), exec_bind,
    exec_accept?_of_ne h hident]
  rfl

/-! ## Whole texts -/

/-- A text has a value if it is a sum and nothing is left. -/
theorem yield?_whole_eq_some_iff {s' : Parser Kind × Nat} :
    c.whole.yield? s = some (v, s') ↔
      (c.sum (c.budget s.1.cursor.stream.length)).yield? s = some (v, s') ∧
        s'.1.cursor.isExhausted = true := by
  rw [whole, yield?_bind, yield?_cursor, Option.bind_some, wholeWithin, yield?_bind,
    Option.bind_eq_some_iff]
  constructor
  · rintro ⟨⟨w, s₁⟩, hsum, hrest⟩
    rw [yield?_bind, yield?_cursor, Option.bind_some] at hrest
    split at hrest
    · rename_i hexhausted
      obtain ⟨rfl, rfl⟩ := Prod.mk.inj (Option.some.inj hrest)
      exact ⟨hsum, hexhausted⟩
    · cases hrest
  · rintro ⟨hsum, hexhausted⟩
    refine ⟨(v, s'), hsum, ?_⟩
    rw [yield?_bind, yield?_cursor, Option.bind_some, if_pos hexhausted]
    rfl

/-! ## Values and names -/

/-- A value is kept if it is in range. -/
theorem yield?_within (f : Fault) (m : Int) :
    (within f m).yield? s = (fit? m).bind fun w => some (w, s) := by
  unfold within fit?
  simp only [fits_iff]
  split <;> rfl

/-- The value of a number is the one that its digits have. -/
theorem yield?_value : (value t).yield? s = (number? t.value).bind fun w => some (w, s) := by
  unfold value
  split
  · rename_i w hw
    rw [hw]
    rfl
  · rename_i hnone
    rw [hnone]
    rfl

/-- A quotient has a value if the divisor is not zero and the result is in range. -/
theorem yield?_quotient (a b : Int) :
    (quotient a b).yield? s = (quotient? a b).bind fun w => some (w, s) := by
  unfold quotient quotient?
  split
  · rfl
  · exact yield?_within _ _

/-- A closing parenthesis is accepted behind the sum. -/
theorem yield?_close_of_at (h : s.1.At (t :: rest)) (ht : t.kind = .rightParen) :
    (close v).yield? s = some (v, (s.1.take t, s.2)) := by
  rw [yield?_eq_some_iff, close, exec_bind, exec_expect_of_at h ht]
  rfl

/-- Without a closing parenthesis the sum in front of it has no value. -/
theorem yield?_close_of_ne (h : s.1.At stream) (hne : aheadOf? stream ≠ some .rightParen) :
    (close v).yield? s = none := by
  rw [close, yield?_bind, yield?, exec_expect_of_ne h hne]
  rfl

/-- The tokens that take the place of a name: those that it stands for, with its span. -/
def replacement? (c : Calculator) (name : Token Kind) : Option (List (Token Kind)) :=
  (c.expansion? name.value).map (·.map fun (kind, value) => ⟨kind, value, name.start, name.stop⟩)

/-- The span is the same for all tokens, so that they can be made if it is a span. -/
theorem mapM_make_of_le {start stop : Nat} (hle : start ≤ stop)
    (expansion : List (Kind × String)) :
    expansion.mapM (fun (kind, value) => Token.make kind value start stop) =
      .ok (expansion.map fun (kind, value) => ⟨kind, value, start, stop⟩) := by
  have hmake : ∀ e : Kind × String, Token.make e.1 e.2 start stop =
      (pure ⟨e.1, e.2, start, stop⟩ : Except Fault (Token Kind)) := fun e => if_pos hle
  simp only [hmake, List.mapM_pure]
  rfl

/-- If the tokens can be made, then they are those of the expansion, all with the same span. -/
theorem eq_map_of_mapM_make {start stop : Nat} {expansion : List (Kind × String)}
    {tokens : List (Token Kind)}
    (h : expansion.mapM (fun (kind, value) => Token.make kind value start stop) = .ok tokens) :
    tokens = expansion.map fun (kind, value) => ⟨kind, value, start, stop⟩ := by
  by_cases hle : start ≤ stop
  · rw [mapM_make_of_le hle] at h
    exact (Except.ok.inj h).symm
  · -- not even the first token can be made
    cases expansion with
    | nil => exact (Except.ok.inj h).symm
    | cons e expansion =>
      have hmake : Token.make e.1 e.2 start stop = .error .tokenEndsBeforeStart := if_neg hle
      rw [List.mapM_cons] at h
      change (Token.make e.1 e.2 start stop >>= _) = _ at h
      rw [hmake] at h
      cases h

/-- A name is counted, and what it stands for takes its place. -/
theorem replacement?_of_yield?_expand {s' : Parser Kind × Nat}
    (h : (c.expand t).yield? s = some ((), s')) :
    ∃ us, c.replacement? t = some us ∧ s' = (s.1.push us, s.2 + 1) := by
  unfold expand at h
  split at h
  · cases h
  · rename_i expansion hexpansion
    split at h
    · cases h
    · rename_i tokens htokens
      refine ⟨tokens, ?_, ?_⟩
      · rw [replacement?, hexpansion, eq_map_of_mapM_make htokens]
        rfl
      · exact (Prod.mk.inj (Option.some.inj h)).2.symm

/-- Without aliases there is nothing to put in the place of a name. -/
theorem yield?_expand_empty : (empty.expand t).yield? s = none := rfl

end Descent.Calculator
