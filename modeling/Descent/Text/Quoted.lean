import Descent.Unicode.Property

/-!
# Quoted texts

The quoted form of a text is meant for the eye of a programmer. It stands between double quotes, and
what would be lost or confused in it is written with a backslash: the quote and the backslash
themselves, the usual controls by a letter, and by its code point in braces whatever does not show:
all that is not printable, and marks that would join the character before them.
-/

namespace Descent.Text.Quoted

/-- A character by its code point. -/
def escapeCode (c : Char) : List Char :=
  ['\\', 'u', '\x7b'] ++ Nat.toDigits 16 c.toNat ++ ['\x7d']

/-- A character of a quoted text. -/
def escape (c : Char) : List Char :=
  match c with
  | '"' => ['\\', '"']
  | '\\' => ['\\', '\\']
  | '\n' => ['\\', 'n']
  | '\r' => ['\\', 'r']
  | '\t' => ['\\', 't']
  | '\x00' => ['\\', '0']
  | c =>
    if ' ' ≤ c ∧ c ≤ '~' then [c]
    else if Unicode.graphemeExtend.contains c || !Unicode.printable.contains c then escapeCode c
    else [c]

end Quoted

/-- The quoted form of a text. -/
def quoted (text : String) : String :=
  String.ofList ('"' :: text.toList.flatMap Quoted.escape ++ ['"'])

end Descent.Text
