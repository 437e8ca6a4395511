import Descent.Calculator
import Descent.Proofs.Parser.Run

/-!
# Steps are no part of a calculation

The functions of the grammar take an amount of steps, and to run out of steps is an outcome of its
own. It says nothing about the calculation, only about the amount: any other outcome is the outcome
with every larger amount (`Calculator.exec_sum_of_le`).

So there is an outcome that does not depend on an amount. A text concludes (`Calculator.Concludes`)
with what it comes to if some amount is enough for it, and there is no more than one thing that it
concludes with (`Calculator.Concludes.unique`). A text that concludes with nothing keeps the
calculator busy forever.

The calculator gives a text the budget of its tokens (`Calculator.exec_whole`). If that is enough
then the outcome is what the text concludes with (`Calculator.concludes_evaluate`).
-/

namespace Descent.Calculator

open Grammar

variable {c : Calculator} {α β : Type}

/-! ## More steps -/

/-- Where the first calculation is not endless, the second does the same. -/
def ProlongedBy (g g' : Calculation α) : Prop :=
  ∀ s, (g.exec s).1 ≠ .error .endless → g'.exec s = g.exec s

namespace ProlongedBy

theorem refl (g : Calculation α) : ProlongedBy g g := fun _ _ => rfl

theorem endless (g' : Calculation α) : ProlongedBy (throw .endless) g' :=
  fun _ h => absurd rfl h

/-- If the first calculation comes to an end then so does what it began with. -/
theorem bind {g g' : Calculation α} {f f' : α → Calculation β} (hg : ProlongedBy g g')
    (hf : ∀ a, ProlongedBy (f a) (f' a)) : ProlongedBy (g >>= f) (g' >>= f') := by
  intro s h
  rw [exec_bind] at h ⊢
  have hne : (g.exec s).1 ≠ .error .endless := by
    intro hendless
    rw [show g.exec s = (.error .endless, (g.exec s).2) from Prod.ext hendless rfl] at h
    exact h rfl
  rw [exec_bind, hg s hne]
  generalize g.exec s = r at h ⊢
  obtain ⟨a | a, s'⟩ := r
  · rfl
  · exact hf a s' h

/-- A choice does not depend on the amount of steps. -/
theorem ite {p : Prop} [Decidable p] {g g' h h' : Calculation α} (hg : ProlongedBy g g')
    (hh : ProlongedBy h h') : ProlongedBy (if p then g else h) (if p then g' else h') := by
  split
  · exact hg
  · exact hh

/-- The text is lexed without any steps, and what is done with its tokens is prolonged. -/
theorem parse {g g' : Calculation α} (hg : ProlongedBy g g') (text : String) :
    ProlongedBy (Grammar.parse .diagnostic text g) (Grammar.parse .diagnostic text g') := by
  intro s h
  cases hlex : s.1.lexer.lex text with
  | error d => rw [exec_parse_of_error hlex, exec_parse_of_error hlex]
  | ok tokens =>
    rw [exec_parse_of_ok hlex] at h ⊢
    rw [exec_parse_of_ok hlex, hg _ h]

end ProlongedBy

/-- One step more makes no difference to the functions of the grammar, unless they are endless. -/
structure ProlongedFrom (c : Calculator) (n : Nat) : Prop where
  sum : ProlongedBy (c.sum n) (c.sum (n + 1))
  sumFrom (v : Int) : ProlongedBy (c.sumFrom n v) (c.sumFrom (n + 1) v)
  product : ProlongedBy (c.product n) (c.product (n + 1))
  productFrom (v : Int) : ProlongedBy (c.productFrom n v) (c.productFrom (n + 1) v)
  factor : ProlongedBy (c.factor n) (c.factor (n + 1))

namespace ProlongedFrom

variable {n : Nat}

theorem sumFrom_succ (h : ProlongedFrom c n) (v : Int) :
    ProlongedBy (c.sumFrom (n + 1) v) (c.sumFrom (n + 2) v) := by
  rw [Calculator.sumFrom, Calculator.sumFrom]
  refine .bind (.refl _) fun plus => .ite ?_ (.bind (.refl _) fun minus => .ite ?_ (.refl _))
  · exact .bind h.product fun w => .bind (.refl _) h.sumFrom
  · exact .bind h.product fun w => .bind (.refl _) h.sumFrom

theorem productFrom_succ (h : ProlongedFrom c n) (v : Int) :
    ProlongedBy (c.productFrom (n + 1) v) (c.productFrom (n + 2) v) := by
  rw [Calculator.productFrom, Calculator.productFrom]
  refine .bind (.refl _) fun star => .ite ?_ (.bind (.refl _) fun slash => .ite ?_ (.refl _))
  · exact .bind h.factor fun w => .bind (.refl _) h.productFrom
  · exact .bind h.factor fun w => .bind (.refl _) h.productFrom

theorem factor_succ (h : ProlongedFrom c n) :
    ProlongedBy (c.factor (n + 1)) (c.factor (n + 2)) := by
  rw [Calculator.factor, Calculator.factor]
  refine .bind (.refl _) fun number => ?_
  cases number with
  | some t => exact .refl _
  | none =>
    refine .bind (.refl _) fun minus => .ite (.bind h.factor fun _ => .refl _) ?_
    refine .bind (.refl _) fun left => .ite (.bind h.sum fun _ => .refl _) ?_
    refine .bind (.refl _) fun name => ?_
    cases name with
    | some t => exact .bind (.refl _) fun _ => h.factor
    | none => exact .refl _

end ProlongedFrom

/-- One step more makes no difference to what ends, whatever the amount was before. -/
theorem prolongedFrom (c : Calculator) (n : Nat) : ProlongedFrom c n := by
  induction n with
  | zero => exact ⟨.endless _, fun _ => .endless _, .endless _, fun _ => .endless _, .endless _⟩
  | succ n ih =>
    exact ⟨.bind ih.product ih.sumFrom, ih.sumFrom_succ, .bind ih.factor ih.productFrom,
      ih.productFrom_succ, ih.factor_succ⟩

/-- **Steps make no difference**, as long as there are enough of them. -/
theorem exec_sum_of_le {n m : Nat} (hle : n ≤ m) {s : Parser Kind × Nat}
    (h : ((c.sum n).exec s).1 ≠ .error .endless) : (c.sum m).exec s = (c.sum n).exec s := by
  induction hle with
  | refl => rfl
  | step _ ih => rw [(prolongedFrom c _).sum s (by rwa [ih]), ih]

/-! ## Whole texts -/

/-- How many steps a text is given depends on how many tokens it has. -/
theorem exec_whole (c : Calculator) (s : Parser Kind × Nat) :
    c.whole.exec s = (c.wholeWithin (c.budget s.1.cursor.stream.length)).exec s := by
  rw [whole, exec_bind, exec_cursor, andThen_ok]

/-- More steps make no difference to a text that ends with fewer of them. -/
theorem prolonged_evaluateWithin {n m : Nat} (hle : n ≤ m) (text : String) :
    ProlongedBy (c.evaluateWithin n text) (c.evaluateWithin m text) := by
  apply ProlongedBy.parse
  apply ProlongedBy.bind
  · intro s h
    exact exec_sum_of_le hle h
  · intro v
    exact .refl _

/-- How the calculation of a text ends if nothing limits it: some amount of steps is enough. -/
def Concludes (c : Calculator) (text : String) (s : Parser Kind × Nat)
    (r : Except Failure Int × (Parser Kind × Nat)) : Prop :=
  r.1 ≠ .error .endless ∧ ∃ n, (c.evaluateWithin n text).exec s = r

variable {text : String} {s : Parser Kind × Nat}
  {r r' : Except Failure Int × (Parser Kind × Nat)}

/-- A text that concludes does so with every amount of steps that is large enough. -/
theorem Concludes.exists_forall (h : c.Concludes text s r) :
    ∃ n, ∀ m, n ≤ m → (c.evaluateWithin m text).exec s = r := by
  obtain ⟨hr, n, hn⟩ := h
  refine ⟨n, fun m hle => ?_⟩
  rw [prolonged_evaluateWithin hle text s (by rwa [hn]), hn]

/-- **There is one conclusion.** -/
theorem Concludes.unique (h : c.Concludes text s r) (h' : c.Concludes text s r') : r = r' := by
  obtain ⟨n, hn⟩ := h.exists_forall
  obtain ⟨n', hn'⟩ := h'.exists_forall
  rw [← hn (max n n') (Nat.le_max_left n n'), ← hn' (max n n') (Nat.le_max_right n n')]

/-- If the budget is enough, then the text concludes with what it is calculated to be. -/
theorem concludes_evaluate (h : ((c.evaluate text).exec s).1 ≠ .error .endless) :
    c.Concludes text s ((c.evaluate text).exec s) := by
  refine ⟨h, ?_⟩
  cases hlex : s.1.lexer.lex text with
  | error d =>
    refine ⟨0, ?_⟩
    rw [evaluate, evaluateWithin, exec_parse_of_error hlex, exec_parse_of_error hlex]
  | ok tokens =>
    refine ⟨c.budget ((s.1.enter text).push tokens).cursor.stream.length, ?_⟩
    rw [evaluate, evaluateWithin, exec_parse_of_ok hlex, exec_parse_of_ok hlex, exec_whole]

end Descent.Calculator
