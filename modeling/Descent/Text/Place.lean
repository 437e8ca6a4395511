/-!
# Places in a text

A place lies between two characters of a text, before the first or after the last. What can be said
about a place is what stands right before it and what comes from it on: a pattern that is matched
there sees no more.
-/

namespace Descent.Text

/-- A place in a text. -/
structure Place where
  /-- the character right before the place, `none` at the start of the text -/
  prev : Option Char
  /-- the text from the place on -/
  rest : List Char
deriving DecidableEq, Repr

namespace Place

/-- The start of a text. -/
def start (text : List Char) : Place := ⟨none, text⟩

/-- The character right after the place. -/
def next? (p : Place) : Option Char := p.rest.head?

/-- The place `n` characters further on, or the end of the text if it has fewer. -/
def skip : Nat → Place → Place
  | 0, p => p
  | _ + 1, ⟨prev, []⟩ => ⟨prev, []⟩
  | n + 1, ⟨_, c :: rest⟩ => skip n ⟨some c, rest⟩

theorem rest_skip (n : Nat) (p : Place) : (p.skip n).rest = p.rest.drop n := by
  induction n generalizing p with
  | zero => rfl
  | succ n ih =>
    obtain ⟨prev, rest⟩ := p
    cases rest with
    | nil => rfl
    | cons c rest => simp [skip, ih]

end Place

end Descent.Text
