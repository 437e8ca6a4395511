import Descent.Text.Offset

/-!
# Buffers

A buffer of a fixed size keeps the first bytes of what is written to it. If a character is cut in
two, what is kept of it shows as the replacement character.
-/

namespace Descent.Text

/-- What a buffer of `size` bytes shows of a text. -/
def keep : Nat → List Char → List Char
  | _, [] => []
  | 0, _ :: _ => []
  | size + 1, c :: cs =>
    if size + 1 < c.utf8Size then ['\ufffd'] else c :: keep (size + 1 - c.utf8Size) cs

/-- Why a text was not written. -/
inductive WriteError where
  /-- it does not fit -/
  | full
deriving DecidableEq, Repr

namespace WriteError

/-- The error in words. -/
def message : WriteError → String
  | full => "failed to write whole buffer"

end WriteError

/-- Write a text to a buffer, if there is one of limited size. What it shows, and whether all of the
text was written. -/
def write (limit : Option Nat) (text : String) : String × Except WriteError Unit :=
  match limit with
  | none => (text, .ok ())
  | some size =>
    (String.ofList (keep size text.toList),
     if byteLength text.toList ≤ size then .ok () else .error .full)

end Descent.Text
