import Descent.Cursor
import Descent.Event
import Descent.Lexer

/-!
# Parsers

A parser is a lexer with a cursor. It parses a text by lexing it, putting the cursor in front of the
tokens, and letting a grammar have the cursor (`Grammar.parse`). A grammar is a program that accepts
tokens and may fail; what it has done to the cursor stays done when it fails. It may keep something
in mind while it runs, and it may even parse another text, for which the one cursor is moved there.

The parser also keeps a trace of what happens. It has no influence on anything.
-/

namespace Descent

/-- A lexer with a cursor. -/
structure Parser (κ : Type) where
  /-- cuts texts into tokens -/
  lexer : Lexer κ
  /-- stands in the tokens of the text that is being parsed, or was parsed last -/
  cursor : Cursor κ
  /-- what has happened, in order -/
  trace : Array Event

/-- A grammar for tokens with kinds in `κ`, which keeps a `σ` in mind and fails with an `ε`. -/
abbrev Grammar (κ σ ε : Type) := ExceptT ε (StateM (Parser κ × σ))

namespace Parser

variable {κ : Type}

/-- A parser that has not parsed anything. -/
def new (lexer : Lexer κ) : Parser κ := ⟨lexer, .start "", #[]⟩

/-- The parser with its cursor elsewhere. -/
def move (cursor : Cursor κ) (p : Parser κ) : Parser κ := { p with cursor := cursor }

/-- The parser after something has happened. -/
def tell (events : List Event) (p : Parser κ) : Parser κ := { p with trace := p.trace ++ events }

/-- The parser with tokens put in front of what is left. The event tells how many they are. -/
def push (tokens : List (Token κ)) (p : Parser κ) : Parser κ :=
  (p.move (p.cursor.push tokens)).tell [.pushed tokens.length]

/-- The parser after tokens were accepted, with its cursor behind them. The events tell where the
tokens stand. -/
def accepted (tokens : List (Token κ)) (cursor : Cursor κ) (p : Parser κ) : Parser κ :=
  (p.move cursor).tell (tokens.map fun t => .accepted t.start t.stop)

/-- All that a parser holds, field by field, but for the trace. -/
def listing (showKind : κ → String) (p : Parser κ) : String :=
  "Parser \x7b lexer: " ++ p.lexer.listing showKind ++ ", " ++ p.cursor.listing showKind ++ " \x7d"

end Parser

namespace Grammar

variable {κ σ ε α : Type}

/-! ## The cursor in a grammar -/

/-- The cursor. -/
def cursor : Grammar κ σ ε (Cursor κ) := return (← get).1.cursor

/-- Change the parser. -/
def modifyParser (f : Parser κ → Parser κ) : Grammar κ σ ε Unit :=
  modify fun (p, s) => (f p, s)

/-- Change what is kept in mind. -/
def modifyMemory (f : σ → σ) : Grammar κ σ ε Unit :=
  modify fun (p, s) => (p, f s)

/-- Drop the lookahead. -/
def advance : Grammar κ σ ε Unit := modifyParser fun p => p.move p.cursor.advance

/-- Put tokens in front of what is left. -/
def push (tokens : List (Token κ)) : Grammar κ σ ε Unit := modifyParser (.push tokens)

/-- Accept the lookahead, if it is of the kind. -/
def accept? [BEq κ] (kind : κ) : Grammar κ σ ε (Option (Token κ)) := do
  match (← cursor).accept? kind with
  | some (t, c) =>
    modifyParser (.accepted [t] c)
    return some t
  | none => return none

/-- Accept the lookahead as the first of the kinds that it is of. -/
def acceptAny? [BEq κ] (kinds : List κ) : Grammar κ σ ε (Option (Token κ)) := do
  match (← cursor).acceptAny? kinds with
  | some (t, c) =>
    modifyParser (.accepted [t] c)
    return some t
  | none => return none

/-- Accept tokens of the kinds for as long as there are any. -/
def drain [BEq κ] (kinds : List κ) : Grammar κ σ ε (List (Token κ)) := do
  let (tokens, c) := (← cursor).drain kinds
  modifyParser (.accepted tokens c)
  return tokens

/-- Accept the lookahead, or say why it cannot be accepted. -/
def expect [BEq κ] (kind : κ) : Grammar κ σ ε (Except Diagnostic (Token κ)) := do
  match (← cursor).expect kind with
  | .ok (t, c) =>
    modifyParser (.accepted [t] c)
    return .ok t
  | .error d => return .error d

/-! ## Parsing -/

/-- Run a grammar and hold on to its outcome. -/
def outcome (g : Grammar κ σ ε α) : Grammar κ σ ε (Except ε α) := fun s =>
  let (result, s) := g.run s
  (.ok result, s)

/-- Go on with an outcome. -/
def resume : Except ε α → Grammar κ σ ε α
  | .ok a => return a
  | .error e => throw e

/-- Lex a text, put the cursor in front of its tokens, and go on with a grammar. If the text cannot
be lexed, the grammar is not run, and the cursor stands in a stream without tokens. -/
def parse (fromDiagnostic : Diagnostic → ε) (text : String) (g : Grammar κ σ ε α) :
    Grammar κ σ ε α := do
  let scan := (← get).1.lexer.scan text
  modifyParser fun p =>
    (p.move (.start text)).tell (.enterParse (Text.byteLength text.toList) :: scan.events text)
  let result ← match scan.result text with
    | .error d => pure (.error (fromDiagnostic d))
    | .ok tokens => do
      push tokens
      outcome g
  modifyParser (.tell [.exitParse])
  resume result

end Grammar

end Descent
