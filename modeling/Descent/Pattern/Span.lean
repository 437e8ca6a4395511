/-!
# Places in a pattern

Diagnostics about a pattern name places by line and column, both counted from one, a column for
each character.
-/

namespace Descent.Pattern

/-- A place in a pattern. -/
structure Position where
  /-- the line, from one -/
  line : Nat
  /-- the column, from one -/
  column : Nat
deriving DecidableEq, Repr

/-- A part of a pattern. -/
structure Span where
  /-- where the part begins -/
  start : Position
  /-- the place right behind the part -/
  stop : Position
deriving DecidableEq, Repr

namespace Position

/-- The first place of a pattern. -/
def first : Position := ⟨1, 1⟩

/-- The place behind a character. -/
def after (p : Position) (c : Char) : Position :=
  if c = '\n' then ⟨p.line + 1, 1⟩ else ⟨p.line, p.column + 1⟩

/-- Does `p` stand before `q`? -/
def before (p q : Position) : Bool :=
  p.line < q.line || (p.line == q.line && p.column < q.column)

end Position

namespace Span

/-- The empty part at a place. -/
def point (p : Position) : Span := ⟨p, p⟩

/-- Does the part begin and end on one line? -/
def isOneLine (s : Span) : Bool := s.start.line == s.stop.line

/-- Does `s` begin before `t`, or with it and end no later? -/
def le (s t : Span) : Bool :=
  s.start.before t.start || (s.start == t.start && !t.stop.before s.stop)

end Span

end Descent.Pattern
