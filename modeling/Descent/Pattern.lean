import Descent.Pattern.Reader
import Descent.Pattern.Meaning
import Descent.Pattern.Match

/-!
# Patterns

A pattern is compiled in three steps: its syntax is read, the syntax is given its form, and the form
is taken apart into the expression that is matched. A pattern whose syntax cannot be read is refused
before one that says something that cannot be meant.

No pattern is refused for its size. An engine that turns patterns into automata has a limit to how
large they may become, and does not accept, say, `\w{1000}{1000}`. Here there is no automaton and no
limit.
-/

namespace Descent

/-- A pattern that can be matched. -/
structure Pattern where
  /-- the pattern as it was written -/
  source : String
  /-- what is matched -/
  expr : Pattern.Expr
  /-- the sets of characters at the sites of the expression -/
  sites : Pattern.Sites
deriving DecidableEq, Repr

namespace Pattern

/-- The form of a pattern. -/
def Form.read (ignoreCase : Bool) (source : String) : Except Error Form := do
  let ast ← Ast.read source.toList
  let (form, _) ← ast.form (.initial ignoreCase)
  return form

/-- Compile a pattern, of whatever size. -/
def compile (ignoreCase : Bool) (source : String) : Except Error Pattern := do
  let form ← Form.read ignoreCase source
  return ⟨source, form.expr 0, form.sets.toArray⟩

/-- The length, in characters, of what the pattern matches at a place, if it matches there. -/
def preferred? (pattern : Pattern) (p : Text.Place) : Option Nat :=
  pattern.expr.preferred? pattern.sites p

end Pattern

end Descent
