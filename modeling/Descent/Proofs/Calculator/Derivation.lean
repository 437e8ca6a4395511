import Descent.Proofs.Calculator.Numeral

/-!
# The grammar of calculations

Which tokens are a calculation, and which number it is: a derivation (`Calculator.Derivation`) says
how the rules of the grammar yield the tokens. That any number of products may follow in a sum is
said from the right end, a sum with an operator and a product behind it being a sum again; so
operators of a kind are grouped to the left. The same goes for products.

The value of a derivation (`Derivation.value`) is computed without any bound on the numbers. The
calculator works with numbers of 64 bits, and only the derivations that are exact
(`Derivation.Exact`) get by with those. Nothing here says how tokens are accepted.
-/

namespace Descent.Calculator

/-- What tokens can be. -/
inductive Phrase where
  | sum
  | product
  | factor
deriving DecidableEq, Repr

/-- How the rules of the grammar yield some tokens. -/
inductive Derivation : Phrase → List (Token Kind) → Type where
  /-- a product is a sum -/
  | ofProduct {ts : List (Token Kind)} (d : Derivation .product ts) : Derivation .sum ts
  /-- a sum, `+`, and a product -/
  | add {ts us : List (Token Kind)} {t : Token Kind} (l : Derivation .sum ts)
      (ht : t.kind = .plus) (r : Derivation .product us) : Derivation .sum (ts ++ t :: us)
  /-- a sum, `-`, and a product -/
  | sub {ts us : List (Token Kind)} {t : Token Kind} (l : Derivation .sum ts)
      (ht : t.kind = .minus) (r : Derivation .product us) : Derivation .sum (ts ++ t :: us)
  /-- a factor is a product -/
  | ofFactor {ts : List (Token Kind)} (d : Derivation .factor ts) : Derivation .product ts
  /-- a product, `*`, and a factor -/
  | mul {ts us : List (Token Kind)} {t : Token Kind} (l : Derivation .product ts)
      (ht : t.kind = .star) (r : Derivation .factor us) : Derivation .product (ts ++ t :: us)
  /-- a product, `/`, and a factor -/
  | div {ts us : List (Token Kind)} {t : Token Kind} (l : Derivation .product ts)
      (ht : t.kind = .slash) (r : Derivation .factor us) : Derivation .product (ts ++ t :: us)
  /-- a number -/
  | number (t : Token Kind) (ht : t.kind = .number) : Derivation .factor [t]
  /-- a name -/
  | name (t : Token Kind) (ht : t.kind = .ident) : Derivation .factor [t]
  /-- `-` and a factor -/
  | neg {ts : List (Token Kind)} {t : Token Kind} (ht : t.kind = .minus)
      (d : Derivation .factor ts) : Derivation .factor (t :: ts)
  /-- a sum in parentheses -/
  | group {ts : List (Token Kind)} {t u : Token Kind} (ht : t.kind = .leftParen)
      (d : Derivation .sum ts) (hu : u.kind = .rightParen) : Derivation .factor (t :: (ts ++ [u]))

/-! ## Values -/

/-- A number, if it fits. -/
def fit? (n : Int) : Option Int := if Fits n then some n else none

/-- A quotient without its fraction, if there is one and it fits. -/
def quotient? (a b : Int) : Option Int := if b = 0 then none else fit? (a.tdiv b)

theorem fit?_eq_some_iff {n m : Int} : fit? n = some m ↔ Fits n ∧ n = m := by
  unfold fit?
  split <;> simp_all

theorem quotient?_eq_some_iff {a b m : Int} :
    quotient? a b = some m ↔ (b ≠ 0 ∧ Fits (a.tdiv b)) ∧ a.tdiv b = m := by
  unfold quotient?
  split
  · simp_all
  · rw [fit?_eq_some_iff]
    simp_all

namespace Derivation

variable {φ : Phrase} {ts : List (Token Kind)}

/-- The value, computed without any bound. A quotient is without its fraction. Names have no value
of their own. -/
def value : {φ : Phrase} → {ts : List (Token Kind)} → Derivation φ ts → Int
  | _, _, ofProduct d => d.value
  | _, _, add l _ r => l.value + r.value
  | _, _, sub l _ r => l.value - r.value
  | _, _, ofFactor d => d.value
  | _, _, mul l _ r => l.value * r.value
  | _, _, div l _ r => l.value.tdiv r.value
  | _, _, number t _ => numeralValue t.value
  | _, _, name _ _ => 0
  | _, _, neg _ d => -d.value
  | _, _, group _ d _ => d.value

/-- The numbers are numerals of 64 bits, there are no names, nothing is divided by zero, and no
result needs more than 64 bits. -/
def Exact : {φ : Phrase} → {ts : List (Token Kind)} → Derivation φ ts → Prop
  | _, _, ofProduct d => d.Exact
  | _, _, add l _ r => l.Exact ∧ r.Exact ∧ Fits (l.value + r.value)
  | _, _, sub l _ r => l.Exact ∧ r.Exact ∧ Fits (l.value - r.value)
  | _, _, ofFactor d => d.Exact
  | _, _, mul l _ r => l.Exact ∧ r.Exact ∧ Fits (l.value * r.value)
  | _, _, div l _ r => l.Exact ∧ r.Exact ∧ r.value ≠ 0 ∧ Fits (l.value.tdiv r.value)
  | _, _, number t _ => IsNumeral t.value ∧ Fits (numeralValue t.value)
  | _, _, name _ _ => False
  | _, _, neg _ d => d.Exact ∧ Fits (-d.value)
  | _, _, group _ d _ => d.Exact

/-- The value, if the derivation is exact. -/
def value? : {φ : Phrase} → {ts : List (Token Kind)} → Derivation φ ts → Option Int
  | _, _, ofProduct d => d.value?
  | _, _, add l _ r => l.value?.bind fun a => r.value?.bind fun b => fit? (a + b)
  | _, _, sub l _ r => l.value?.bind fun a => r.value?.bind fun b => fit? (a - b)
  | _, _, ofFactor d => d.value?
  | _, _, mul l _ r => l.value?.bind fun a => r.value?.bind fun b => fit? (a * b)
  | _, _, div l _ r => l.value?.bind fun a => r.value?.bind fun b => quotient? a b
  | _, _, number t _ => number? t.value
  | _, _, name _ _ => none
  | _, _, neg _ d => d.value?.bind fun a => fit? (-a)
  | _, _, group _ d _ => d.value?

/-- The value with bounds is the value without bounds, where the bounds are kept. -/
theorem value?_eq_some_iff (d : Derivation φ ts) {v : Int} :
    d.value? = some v ↔ d.Exact ∧ d.value = v := by
  induction d generalizing v with
  | ofProduct d ih => exact ih
  | add l ht r ihl ihr =>
    simp only [value?, Exact, value, Option.bind_eq_some_iff, ihl, ihr, fit?_eq_some_iff]
    grind
  | sub l ht r ihl ihr =>
    simp only [value?, Exact, value, Option.bind_eq_some_iff, ihl, ihr, fit?_eq_some_iff]
    grind
  | ofFactor d ih => exact ih
  | mul l ht r ihl ihr =>
    simp only [value?, Exact, value, Option.bind_eq_some_iff, ihl, ihr, fit?_eq_some_iff]
    grind
  | div l ht r ihl ihr =>
    simp only [value?, Exact, value, Option.bind_eq_some_iff, ihl, ihr, quotient?_eq_some_iff]
    grind
  | number t ht =>
    simp only [value?, Exact, value, number?_eq_some_iff]
    grind
  | name t ht => simp [value?, Exact]
  | neg ht d ih =>
    simp only [value?, Exact, value, Option.bind_eq_some_iff, ih, fit?_eq_some_iff]
    grind
  | group ht d hu ih => exact ih

/-- There is no name in what is exact. -/
theorem Exact.kind_ne_ident {d : Derivation φ ts} (h : d.Exact) : ∀ t ∈ ts, t.kind ≠ .ident := by
  induction d with
  | ofProduct d ih => exact ih h
  | add l ht r ihl ihr =>
    rw [List.forall_mem_append, List.forall_mem_cons, ht]
    exact ⟨ihl h.1, by decide, ihr h.2.1⟩
  | sub l ht r ihl ihr =>
    rw [List.forall_mem_append, List.forall_mem_cons, ht]
    exact ⟨ihl h.1, by decide, ihr h.2.1⟩
  | ofFactor d ih => exact ih h
  | mul l ht r ihl ihr =>
    rw [List.forall_mem_append, List.forall_mem_cons, ht]
    exact ⟨ihl h.1, by decide, ihr h.2.1⟩
  | div l ht r ihl ihr =>
    rw [List.forall_mem_append, List.forall_mem_cons, ht]
    exact ⟨ihl h.1, by decide, ihr h.2.1⟩
  | number t ht =>
    rw [List.forall_mem_singleton, ht]
    decide
  | name t ht => exact h.elim
  | neg ht d ih =>
    rw [List.forall_mem_cons, ht]
    exact ⟨by decide, ih h.1⟩
  | group ht d hu ih =>
    rw [List.forall_mem_cons, List.forall_mem_append, List.forall_mem_singleton, ht, hu]
    exact ⟨by decide, ih h, by decide⟩

/-- Nothing is not a phrase. -/
theorem ne_nil (d : Derivation φ ts) : ts ≠ [] := by
  induction d <;> simp_all

end Derivation

/-- The tokens are a phrase with the value. -/
def Evaluates (φ : Phrase) (ts : List (Token Kind)) (v : Int) : Prop :=
  ∃ d : Derivation φ ts, d.value? = some v

theorem evaluates_iff {φ : Phrase} {ts : List (Token Kind)} {v : Int} :
    Evaluates φ ts v ↔ ∃ d : Derivation φ ts, d.Exact ∧ d.value = v :=
  exists_congr fun d => d.value?_eq_some_iff

namespace Evaluates

variable {ts us : List (Token Kind)} {t u : Token Kind} {a b v : Int}

theorem ofProduct (h : Evaluates .product ts v) : Evaluates .sum ts v := by
  obtain ⟨d, hd⟩ := h
  exact ⟨.ofProduct d, hd⟩

theorem ofFactor (h : Evaluates .factor ts v) : Evaluates .product ts v := by
  obtain ⟨d, hd⟩ := h
  exact ⟨.ofFactor d, hd⟩

theorem add (hl : Evaluates .sum ts a) (ht : t.kind = .plus) (hr : Evaluates .product us b)
    (hv : fit? (a + b) = some v) : Evaluates .sum (ts ++ t :: us) v := by
  obtain ⟨l, hl⟩ := hl
  obtain ⟨r, hr⟩ := hr
  exact ⟨.add l ht r, by rw [Derivation.value?, hl, hr]; exact hv⟩

theorem sub (hl : Evaluates .sum ts a) (ht : t.kind = .minus) (hr : Evaluates .product us b)
    (hv : fit? (a - b) = some v) : Evaluates .sum (ts ++ t :: us) v := by
  obtain ⟨l, hl⟩ := hl
  obtain ⟨r, hr⟩ := hr
  exact ⟨.sub l ht r, by rw [Derivation.value?, hl, hr]; exact hv⟩

theorem mul (hl : Evaluates .product ts a) (ht : t.kind = .star) (hr : Evaluates .factor us b)
    (hv : fit? (a * b) = some v) : Evaluates .product (ts ++ t :: us) v := by
  obtain ⟨l, hl⟩ := hl
  obtain ⟨r, hr⟩ := hr
  exact ⟨.mul l ht r, by rw [Derivation.value?, hl, hr]; exact hv⟩

theorem div (hl : Evaluates .product ts a) (ht : t.kind = .slash) (hr : Evaluates .factor us b)
    (hv : quotient? a b = some v) : Evaluates .product (ts ++ t :: us) v := by
  obtain ⟨l, hl⟩ := hl
  obtain ⟨r, hr⟩ := hr
  exact ⟨.div l ht r, by rw [Derivation.value?, hl, hr]; exact hv⟩

theorem number (ht : t.kind = .number) (hv : number? t.value = some v) :
    Evaluates .factor [t] v :=
  ⟨.number t ht, hv⟩

theorem neg (ht : t.kind = .minus) (h : Evaluates .factor ts a) (hv : fit? (-a) = some v) :
    Evaluates .factor (t :: ts) v := by
  obtain ⟨d, hd⟩ := h
  exact ⟨.neg ht d, by rw [Derivation.value?, hd]; exact hv⟩

theorem group (ht : t.kind = .leftParen) (h : Evaluates .sum ts v) (hu : u.kind = .rightParen) :
    Evaluates .factor (t :: (ts ++ [u])) v := by
  obtain ⟨d, hd⟩ := h
  exact ⟨.group ht d hu, hd⟩

end Evaluates

end Descent.Calculator
