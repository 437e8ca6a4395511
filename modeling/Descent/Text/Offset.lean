/-!
# Offsets

An offset counts the bytes of a text in UTF-8. The offsets at which a character begins, and the one
at the end, are the text's boundaries; `boundaries` lists them. Any offset is brought back to the
last boundary that it does not stand before (`clamp`), and a boundary is turned into the number of
characters before it (`column?`).
-/

namespace Descent.Text

/-- The number of bytes of a text. -/
def byteLength : List Char → Nat
  | [] => 0
  | c :: cs => c.utf8Size + byteLength cs

@[simp] theorem byteLength_nil : byteLength [] = 0 := rfl

@[simp] theorem byteLength_cons (c : Char) (cs : List Char) :
    byteLength (c :: cs) = c.utf8Size + byteLength cs := rfl

@[simp] theorem byteLength_append (s t : List Char) :
    byteLength (s ++ t) = byteLength s + byteLength t := by
  induction s with
  | nil => simp
  | cons c s ih => simp [ih, Nat.add_assoc]

/-- The boundaries of a text, counted from `start`. -/
def boundariesFrom (start : Nat) : List Char → List Nat
  | [] => [start]
  | c :: cs => start :: boundariesFrom (start + c.utf8Size) cs

/-- The boundaries of a text. -/
def boundaries (text : List Char) : List Nat := boundariesFrom 0 text

/-- The last boundary that is no greater than the offset. -/
def clamp : List Char → Nat → Nat
  | [], _ => 0
  | c :: cs, n => if n < c.utf8Size then 0 else c.utf8Size + clamp cs (n - c.utf8Size)

/-- The number of characters before a boundary. -/
def column? : List Char → Nat → Option Nat
  | _, 0 => some 0
  | [], _ + 1 => none
  | c :: cs, n =>
    if n < c.utf8Size then none else (column? cs (n - c.utf8Size)).map (· + 1)

end Descent.Text
