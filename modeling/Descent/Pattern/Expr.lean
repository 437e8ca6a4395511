import Descent.Pattern.Form

/-!
# Expressions

For matching, a form is taken apart into an expression. What matters about the order of choices is
all that is left: an expression is built of leaves, each of which reads one character, and says
which of several ways on is preferred.

A leaf is a number, its site. The sites of a form are counted from left to right, and `Form.sets`
lists the sets of characters that they stand for. So two places of an expression can be told apart
even if they look the same.
-/

namespace Descent.Pattern

/-- An expression: what is left of a form when nothing but matching matters. -/
inductive Expr where
  /-- the empty text -/
  | empty
  /-- one character of the set at a site -/
  | leaf (site : Nat)
  /-- the empty text, at some places -/
  | look (l : Look)
  /-- one expression and then the other -/
  | seq (first rest : Expr)
  /-- one expression, or else the other -/
  | alt (first rest : Expr)
  /-- an expression again and again, as often as possible if greedy, else as seldom as possible -/
  | star (greedy : Bool) (sub : Expr)
  /-- an expression once, and then again and again -/
  | plus (greedy : Bool) (sub : Expr)
  /-- an expression a number of times -/
  | exactly (n : Nat) (sub : Expr)
  /-- an expression up to a number of times, as often as possible if greedy, else as seldom as
  possible -/
  | upTo (greedy : Bool) (n : Nat) (sub : Expr)
deriving DecidableEq, Repr, Inhabited

namespace Expr

/-- The expression or nothing, the expression preferred if greedy. -/
def optional (greedy : Bool) (e : Expr) : Expr :=
  if greedy then alt e empty else alt empty e

/-- The expression at least `min` times and at most `max` times. `nonempty` says that it matches no
empty text. If it can match the empty text, not to begin is another choice than to stop. -/
def repeated (nonempty : Bool) (min : Nat) (max : Option Nat) (greedy : Bool) (e : Expr) : Expr :=
  match min, max with
  | 0, none => if nonempty then star greedy e else optional greedy (plus greedy e)
  | 1, none => plus greedy e
  | min + 1, none => seq (exactly min e) (plus greedy e)
  | 0, some max => upTo greedy max e
  | min, some max =>
    if min = max then exactly min e
    else seq (exactly min e) (upTo greedy (max - min) e)

/-- As many leaves in a row, from a site on. -/
def leaves (site : Nat) : Nat → Expr
  | 0 => empty
  | 1 => leaf site
  | n + 1 => seq (leaf site) (leaves (site + 1) n)

end Expr

namespace Form

/-- The sets of characters at the sites of a form. -/
def sets : Form → List CharSet
  | empty => []
  | literal text => text.map CharSet.single
  | set s => [s]
  | look _ => []
  | capture _ sub => sub.sets
  | repetition _ _ _ sub => sub.sets
  | seq a b => a.sets ++ b.sets
  | alt a b => a.sets ++ b.sets

/-- The expression of a form whose first site is given. -/
def expr (site : Nat) : Form → Expr
  | empty => .empty
  | literal text => .leaves site text.length
  | set _ => .leaf site
  | look l => .look l
  | capture _ sub => sub.expr site
  | repetition min max greedy sub =>
    .repeated (sub.minLength.any (0 < ·)) min max greedy (sub.expr site)
  | seq a b => .seq (a.expr site) (b.expr (site + a.sets.length))
  | alt a b => .alt (a.expr site) (b.expr (site + a.sets.length))

end Form

end Descent.Pattern
