/-!
# Writing documents

Documents are written without white space. In a string only what must be escaped is escaped: the
quote, the backslash and the controls, the usual ones by a letter.
-/

namespace Descent.Json

/-- A character of a string. -/
def escape (c : Char) : List Char :=
  match c with
  | '"' => ['\\', '"']
  | '\\' => ['\\', '\\']
  | '\x08' => ['\\', 'b']
  | '\x0c' => ['\\', 'f']
  | '\n' => ['\\', 'n']
  | '\r' => ['\\', 'r']
  | '\t' => ['\\', 't']
  | c =>
    if c < ' ' then
      ['\\', 'u', '0', '0', Nat.digitChar (c.toNat / 16), Nat.digitChar (c.toNat % 16)]
    else [c]

/-- A string, with its quotes. -/
def writeString (s : String) : String :=
  String.ofList ('"' :: s.toList.flatMap escape ++ ['"'])

/-- A truth value. -/
def writeBool (b : Bool) : String := if b then "true" else "false"

/-- A list of values that are written already. -/
def writeList (values : List String) : String := "[" ++ ",".intercalate values ++ "]"

/-- An object of members whose values are written already. -/
def writeObject (members : List (String × String)) : String :=
  "\x7b" ++ ",".intercalate (members.map fun (k, v) => writeString k ++ ":" ++ v) ++ "\x7d"

end Descent.Json
