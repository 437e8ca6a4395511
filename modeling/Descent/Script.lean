import Descent.Parser

/-!
# Scripts

A script is a list of steps for a parser, of which each leaves a record: its answer, and the cursor
as it stands afterwards. A step may parse a text with a script of its own. Where a step is strict,
its error ends the script, and with it the parse that the script is the grammar of.
-/

namespace Descent

/-- What to complain about. -/
inductive Complaint where
  /-- the lookahead is of no use -/
  | unexpected
  /-- something about what comes next -/
  | next (message : String)
  /-- something about the last token -/
  | last (message : String)
deriving DecidableEq, Repr

/-- The diagnostic of a complaint. -/
def Cursor.complain {κ : Type} (c : Cursor κ) : Complaint → Diagnostic
  | .unexpected => c.unexpected
  | .next message => c.nextError message
  | .last message => c.lastError message

/-- Something to do with a parser. -/
inductive Step (κ : Type) where
  /-- accept the lookahead, if it is of the kind -/
  | accept (kind : κ)
  /-- accept the lookahead, if it is of one of the kinds -/
  | acceptAny (kinds : List κ)
  /-- accept tokens of the kinds for as long as there are any -/
  | drain (kinds : List κ)
  /-- accept the lookahead, which must be of the kind -/
  | expect (kind : κ) (strict : Bool)
  /-- drop the lookahead -/
  | advance
  /-- put tokens in front of what is left, if they could be made -/
  | push (tokens : Except Fault (List (Token κ)))
  /-- put the last token in front of what is left -/
  | pushLast
  /-- make a diagnostic -/
  | complain (complaint : Complaint) (strict : Bool)
  /-- show where the cursor is -/
  | caret
  /-- parse a text with a script -/
  | parse (text : String) (steps : List (Step κ)) (strict : Bool)
  /-- show all that the parser holds -/
  | listing

/-- What a step has to say. -/
inductive Answer (κ : Type) where
  /-- nothing -/
  | done
  /-- yes or no -/
  | flag (yes : Bool)
  /-- the token that was accepted -/
  | token (t : Token κ)
  /-- the tokens that were accepted -/
  | tokens (ts : List (Token κ))
  /-- a text to show -/
  | text (s : String)
  /-- a diagnostic -/
  | diagnostic (d : Diagnostic)
  /-- a fault -/
  | fault (f : Fault)

/-- A step's answer, and the cursor after the step. -/
inductive Record (κ : Type) where
  /-- of a step that does not parse -/
  | plain (answer : Answer κ) (after : Cursor κ)
  /-- of a parse: the records of its script, and how many steps the script has or what ended it -/
  | parse (inner : List (Record κ)) (result : Except Diagnostic Nat) (after : Cursor κ)

namespace Script

variable {κ : Type}

/-- A script at work. The records are what it keeps in mind. -/
abbrev Work (κ : Type) := Grammar κ (Array (Record κ)) Diagnostic

/-- Leave a record of an answer. -/
def record (answer : Answer κ) : Work κ Unit := do
  let c ← Grammar.cursor
  Grammar.modifyMemory (·.push (.plain answer c))

/-- Leave a record of a diagnostic, and end the script if the step is strict. -/
def report (d : Diagnostic) (strict : Bool) : Work κ Unit := do
  record (.diagnostic d)
  if strict then throw d

/-- Parse a text with a script, and leave a record of it. -/
def recordParse (text : String) (size : Nat) (script : Work κ Unit) (strict : Bool) :
    Work κ Unit := do
  let (_, outer) ← get
  Grammar.modifyMemory fun _ => #[]
  let result ← Grammar.outcome (Grammar.parse id text script)
  let (p, inner) ← get
  Grammar.modifyMemory fun _ =>
    outer.push (.parse inner.toList (result.map fun _ => size) p.cursor)
  if strict then Grammar.resume result

mutual

/-- Take a step. -/
def runStep [BEq κ] (showKind : κ → String) (step : Step κ) : Work κ Unit :=
  match step with
  | .accept kind => do record (.flag (← Grammar.accept? kind).isSome)
  | .acceptAny kinds => do record (.flag (← Grammar.acceptAny? kinds).isSome)
  | .drain kinds => do record (.tokens (← Grammar.drain kinds))
  | .expect kind strict => do
    match ← Grammar.expect kind with
    | .ok t => record (.token t)
    | .error d => report d strict
  | .advance => do
    Grammar.advance
    record .done
  | .push (.error f) => record (.fault f)
  | .push (.ok tokens) => do
    Grammar.push tokens
    record .done
  | .pushLast => do
    Grammar.push (← Grammar.cursor).last.toList
    record .done
  | .complain complaint strict => do report ((← Grammar.cursor).complain complaint) strict
  | .caret => do record (.text (← Grammar.cursor).unexpected.caret)
  | .parse text steps strict =>
    recordParse text steps.length (runSteps showKind steps) strict
  | .listing => do record (.text ((← get).1.listing showKind))

/-- Take the steps one after the other, until one of them ends the script. -/
def runSteps [BEq κ] (showKind : κ → String) (steps : List (Step κ)) : Work κ Unit :=
  match steps with
  | [] => return ()
  | step :: steps => do
    runStep showKind step
    runSteps showKind steps

end

/-- Run a script with a new parser. Yields the records, how many steps there are or what ended the
script, and the trace. -/
def run [BEq κ] (showKind : κ → String) (lexer : Lexer κ) (steps : List (Step κ)) :
    List (Record κ) × Except Diagnostic Nat × List Event :=
  let (result, p, records) := (runSteps showKind steps).run (.new lexer, #[])
  (records.toList, result.map fun _ => steps.length, p.trace.toList)

end Script

end Descent
