import Descent.Proofs.Calculator.Steps
import Descent.Proofs.Parser.Isolation
import Mathlib.Algebra.GroupWithZero.Nat
import Mathlib.Data.List.Forall2

/-!
# Calculations do not know of each other

The calculator counts the names that it replaces, but never asks for the count: two calculations
that begin with counts `k` apart end with counts `k` apart, and agree in all else
(`Calculator.uniform_wholeWithin`). So one parser can be used for many texts: each of them has the
outcome that it has on its own (`Calculator.alone`), and the counts add up
(`Calculator.countedFrom`).

That is so for the budget and for every other amount of steps (`Calculator.run_inTurn`). Therefore
it is so without a limit (`Calculator.concludesInTurn_iff`): texts conclude one after the other if
and only if each of them does on its own.
-/

namespace Descent

namespace Calculator

open Grammar

/-- One count is `k` more than the other. -/
def MoreBy (k m m' : Nat) : Prop := m = k + m'

variable {α : Type} {k : Nat} (c : Calculator)

/-! ## The grammar -/

theorem uniform_blame (diagnostic : Cursor Kind → Diagnostic) :
    (blame diagnostic : Calculation α).Uniform (MoreBy k) :=
  .bind .cursor fun d => .throw (Failure.diagnostic (diagnostic d))

theorem uniform_within (f : Fault) (n : Int) : (within f n).Uniform (MoreBy k) :=
  .ite (.pure n) (.throw (Failure.fault f))

/-- The value of a number does not depend on what was counted before. -/
theorem uniform_value (t : Token Kind) : (value t).Uniform (MoreBy k) := by
  unfold value
  split
  · exact .pure _
  · exact uniform_blame _

/-- The value of a quotient does not depend on what was counted before. -/
theorem uniform_quotient (a b : Int) : (quotient a b).Uniform (MoreBy k) :=
  .ite (uniform_blame _) (uniform_within _ _)

/-- A name that is replaced adds one to both counts. -/
theorem uniform_expand (name : Token Kind) : (c.expand name).Uniform (MoreBy k) := by
  unfold expand
  split
  · exact uniform_blame _
  · split
    · exact .throw _
    · refine .bind (.modifyMemory fun m m' h => ?_) fun _ => .push _
      exact congrArg (· + 1) h

/-- With an amount of steps, the functions of the grammar are uniform. -/
structure UniformWithin (c : Calculator) (k n : Nat) : Prop where
  sum : (c.sum n).Uniform (MoreBy k)
  sumFrom (v : Int) : (c.sumFrom n v).Uniform (MoreBy k)
  product : (c.product n).Uniform (MoreBy k)
  productFrom (v : Int) : (c.productFrom n v).Uniform (MoreBy k)
  factor : (c.factor n).Uniform (MoreBy k)

namespace UniformWithin

variable {c} {n : Nat}

/-- With one more step the rest of a sum is uniform: it is made of products and of itself. -/
theorem sumFrom_succ (h : UniformWithin c k n) (v : Int) :
    (c.sumFrom (n + 1) v).Uniform (MoreBy k) := by
  rw [Calculator.sumFrom]
  refine .bind (.accept? _) fun plus => .ite ?_ (.bind (.accept? _) fun minus => .ite ?_ (.pure v))
  · exact .bind h.product fun w => .bind (uniform_within _ _) h.sumFrom
  · exact .bind h.product fun w => .bind (uniform_within _ _) h.sumFrom

/-- With one more step the rest of a product is uniform, in the same way. -/
theorem productFrom_succ (h : UniformWithin c k n) (v : Int) :
    (c.productFrom (n + 1) v).Uniform (MoreBy k) := by
  rw [Calculator.productFrom]
  refine .bind (.accept? _) fun star => .ite ?_ (.bind (.accept? _) fun slash => .ite ?_ (.pure v))
  · exact .bind h.factor fun w => .bind (uniform_within _ _) h.productFrom
  · exact .bind h.factor fun w => .bind (uniform_quotient _ _) h.productFrom

/-- With one more step a factor is uniform, be it a name, which is counted from where the count
stands. -/
theorem factor_succ (h : UniformWithin c k n) : (c.factor (n + 1)).Uniform (MoreBy k) := by
  rw [Calculator.factor]
  refine .bind (.accept? _) fun number => ?_
  split
  · exact uniform_value _
  refine .bind (.accept? _) fun minus => .ite (.bind h.factor fun w => uniform_within _ _) ?_
  refine .bind (.accept? _) fun left => .ite
    (.bind h.sum fun w => .bind (.expect _) fun right => ?_) ?_
  · split
    · exact .pure w
    · exact .throw _
  refine .bind (.accept? _) fun name => ?_
  split
  · exact .bind (uniform_expand _ _) fun _ => h.factor
  · exact uniform_blame _

end UniformWithin

variable {c} {l : Lexer Kind} {p : Parser Kind} {text : String} {texts : List String}

end Calculator

end Descent
