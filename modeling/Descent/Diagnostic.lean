import Descent.Text.Offset
import Descent.Text.Quoted

/-!
# Diagnostics

A diagnostic says what is wrong with a text and where. It holds the whole text and an offset into
it, which is enough to put a caret under the character that is to blame.

Offsets may come from elsewhere, for tokens can be put into a stream that were not cut from its
text. So `Diagnostic.lexical` and `Diagnostic.grammatical` bring the offset back to a boundary of
the text.
-/

namespace Descent

/-- Who found fault with a text. -/
inductive Stage where
  /-- the lexer: no rule matches -/
  | lexical
  /-- the parser or its grammar -/
  | grammatical
deriving DecidableEq, Repr

/-- What is wrong with a text, and where. -/
structure Diagnostic where
  /-- who found it -/
  stage : Stage
  /-- what is wrong -/
  message : String
  /-- the whole text -/
  source : String
  /-- the offset of the place, in bytes -/
  offset : Nat
deriving DecidableEq, Repr

namespace Diagnostic

/-- No rule matches here. -/
def invalidCharacter : String := "Invalid character"

/-- Something else was expected here. -/
def unexpectedToken : String := "Unexpected token"

/-- More was expected here. -/
def unexpectedEnd : String := "Unexpected end of file"

/-! ## Making diagnostics -/

/-- A diagnostic of the lexer, its offset brought back to a boundary. -/
def lexical (message source : String) (offset : Nat) : Diagnostic :=
  ⟨.lexical, message, source, Text.clamp source.toList offset⟩

/-- A diagnostic of the parser, its offset brought back to a boundary. -/
def grammatical (message source : String) (offset : Nat) : Diagnostic :=
  ⟨.grammatical, message, source, Text.clamp source.toList offset⟩

/-! ## Showing diagnostics -/

/-- The column of the caret: the number of characters before the offset, or the offset itself if it
is no boundary. -/
def column (d : Diagnostic) : Nat :=
  (Text.column? d.source.toList d.offset).getD d.offset

/-- The message, the text under it, and a caret under the text. -/
def caret (d : Diagnostic) : String :=
  d.message ++ ":\n\n    " ++ d.source ++ "\n    " ++
    String.ofList (List.replicate d.column ' ') ++ "^\n\n"

/-- The message and the offset in one line. -/
def oneLine (d : Diagnostic) : String :=
  d.message ++ " at position " ++ toString d.offset

/-- The name of the stage in listings. -/
def stageName : Stage → String
  | .lexical => "Lex"
  | .grammatical => "Syntax"

/-- All that a diagnostic holds, field by field. -/
def listing (d : Diagnostic) : String :=
  stageName d.stage ++ " \x7b message: " ++ Text.quoted d.message ++ ", string: " ++
    Text.quoted d.source ++ ", pos: " ++ toString d.offset ++ " \x7d"

end Diagnostic

end Descent
