import Descent.Lexer

/-!
# The words of the calculator

The calculator reads numbers, names, four operators and parentheses. White space and comments, which
go from `#` to the end of the line, are skipped.
-/

namespace Descent.Calculator

/-- What a token of the calculator is. -/
inductive Kind where
  | number
  | ident
  | plus
  | minus
  | star
  | slash
  | leftParen
  | rightParen
deriving DecidableEq, Repr

namespace Kind

/-- All kinds. -/
def all : List Kind := [number, ident, plus, minus, star, slash, leftParen, rightParen]

/-- The name of a kind. -/
def name : Kind → String
  | number => "Number"
  | ident => "Ident"
  | plus => "Plus"
  | minus => "Minus"
  | star => "Star"
  | slash => "Slash"
  | leftParen => "LParen"
  | rightParen => "RParen"

/-- The kind with a name. -/
def ofName? (name : String) : Option Kind := all.find? (·.name == name)

theorem ofName?_name (k : Kind) : ofName? k.name = some k := by
  cases k <;> decide

end Kind

/-- The lexicon of the calculator. -/
def lexicon : Lexicon Kind :=
  Lexicon.empty
    |>.token "\\d+" .number
    |>.token "[A-Za-z_][A-Za-z0-9_]*" .ident
    |>.token "\\+" .plus
    |>.token "-" .minus
    |>.token "\\*" .star
    |>.token "/" .slash
    |>.token "\\(" .leftParen
    |>.token "\\)" .rightParen
    |>.skip "\\s+"
    |>.skip "#[^\\n]*"

/-- The lexer of the calculator, whose patterns are all well formed. -/
def lexer : Lexer Kind :=
  match lexicon.compile with
  | .ok l => l
  | .error _ => ⟨[]⟩

end Descent.Calculator
