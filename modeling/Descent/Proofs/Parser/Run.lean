import Descent.Parser
import Descent.Proofs.Cursor.Reading

/-!
# Running grammars

A grammar is run on a parser and what is kept in mind, and yields an outcome together with both as
they are afterwards. This file says what each way of building a grammar does when it is run
(`Grammar.exec_bind` and its like), so that proofs about grammars need not look at how they are
made.
-/

namespace Descent

namespace Parser

variable {κ : Type}

@[simp] theorem lexer_new (l : Lexer κ) : (Parser.new l).lexer = l := rfl

@[simp] theorem cursor_move (c : Cursor κ) (p : Parser κ) : (p.move c).cursor = c := rfl

@[simp] theorem cursor_push (tokens : List (Token κ)) (p : Parser κ) :
    (p.push tokens).cursor = p.cursor.push tokens := rfl

@[simp] theorem cursor_accepted (tokens : List (Token κ)) (c : Cursor κ) (p : Parser κ) :
    (p.accepted tokens c).cursor = c := rfl

/-- To accept tokens and then others is to accept all of them. -/
theorem accepted_accepted (ts us : List (Token κ)) (c d : Cursor κ) (p : Parser κ) :
    (p.accepted ts c).accepted us d = p.accepted (ts ++ us) d := by
  have htrace (f : Token κ → Event) : p.trace ++ ts.map f ++ us.map f =
      p.trace ++ (ts ++ us).map f := by
    rw [← Array.toList_inj]
    simp
  simp only [accepted, move, tell, htrace]

/-- The parser that is going to parse a text: its cursor has no tokens yet. -/
def enter (text : String) (p : Parser κ) : Parser κ :=
  (p.move (.start text)).tell
    (.enterParse (Text.byteLength text.toList) :: (p.lexer.scan text).events text)

/-- The parser that has parsed a text. -/
def leave (p : Parser κ) : Parser κ := p.tell [.exitParse]

/-- A parser that is going to parse a text has left nothing of the text before. -/
@[simp] theorem cursor_enter (text : String) (p : Parser κ) :
    (p.enter text).cursor = .start text := rfl

/-- When the tokens of a text are there, they are all that is left. -/
theorem reading_push_enter (text : String) (tokens : List (Token κ)) (p : Parser κ) :
    ((p.enter text).push tokens).cursor.reading = ⟨text, none, tokens⟩ := by
  rw [cursor_push, Cursor.reading_push, cursor_enter, Cursor.reading_start, Reading.push,
    Reading.start, List.append_nil]

/-- What is told is added at the end of the trace. -/
theorem toList_trace_tell (events : List Event) (p : Parser κ) :
    (p.tell events).trace.toList = p.trace.toList ++ events := by
  simp [tell]

/-- One event tells of a push, however many tokens there are. -/
theorem toList_trace_push (tokens : List (Token κ)) (p : Parser κ) :
    (p.push tokens).trace.toList = p.trace.toList ++ [.pushed tokens.length] :=
  toList_trace_tell _ _

/-- The event of an acceptance has the span of the token. -/
theorem toList_trace_accepted (t : Token κ) (c : Cursor κ) (p : Parser κ) :
    (p.accepted [t] c).trace.toList = p.trace.toList ++ [.accepted t.start t.stop] :=
  toList_trace_tell _ _

/-- A parse begins with its own event, and the lexing of the text comes next. -/
theorem toList_trace_enter (text : String) (p : Parser κ) :
    (p.enter text).trace.toList = p.trace.toList ++
      .enterParse (Text.byteLength text.toList) :: (p.lexer.scan text).events text :=
  toList_trace_tell _ _

/-- A parse ends with its own event. -/
theorem toList_trace_leave (p : Parser κ) : p.leave.trace.toList = p.trace.toList ++ [.exitParse] :=
  toList_trace_tell _ _

@[simp] theorem lexer_leave (p : Parser κ) : p.leave.lexer = p.lexer := rfl

@[simp] theorem cursor_leave (p : Parser κ) : p.leave.cursor = p.cursor := rfl

end Parser

namespace Grammar

variable {κ σ ε α β : Type}

/-- Run a grammar. Yields its outcome, and the parser and what is kept in mind afterwards. -/
def exec (g : Grammar κ σ ε α) (s : Parser κ × σ) : Except ε α × (Parser κ × σ) := g.run.run s

/-- To return something changes nothing. -/
@[simp] theorem exec_pure (a : α) (s : Parser κ × σ) :
    (pure a : Grammar κ σ ε α).exec s = (.ok a, s) := rfl

/-- To resume a result is to end with it, whether it is a value or a failure. -/
@[simp] theorem exec_resume (result : Except ε α) (s : Parser κ × σ) :
    (resume result : Grammar κ σ ε α).exec s = (result, s) := by
  cases result <;> rfl

@[simp] theorem exec_get (s : Parser κ × σ) :
    (get : Grammar κ σ ε (Parser κ × σ)).exec s = (.ok s, s) := rfl

@[simp] theorem exec_cursor (s : Parser κ × σ) :
    (cursor : Grammar κ σ ε (Cursor κ)).exec s = (.ok s.1.cursor, s) := rfl

@[simp] theorem exec_modifyParser (f : Parser κ → Parser κ) (s : Parser κ × σ) :
    (modifyParser f : Grammar κ σ ε Unit).exec s = (.ok (), (f s.1, s.2)) := rfl

@[simp] theorem exec_modifyMemory (f : σ → σ) (s : Parser κ × σ) :
    (modifyMemory f : Grammar κ σ ε Unit).exec s = (.ok (), (s.1, f s.2)) := rfl

/-- How a grammar ends becomes a value; what it has changed stays changed. -/
@[simp] theorem exec_outcome (g : Grammar κ σ ε α) (s : Parser κ × σ) :
    (outcome g).exec s = (.ok (g.exec s).1, (g.exec s).2) := rfl

/-! ## One grammar after another -/

/-- Go on from how a grammar ended. -/
def andThen (r : Except ε α × (Parser κ × σ)) (f : α → Grammar κ σ ε β) :
    Except ε β × (Parser κ × σ) :=
  match r with
  | (.ok a, s) => (f a).exec s
  | (.error e, s) => (.error e, s)

@[simp] theorem andThen_ok (a : α) (s : Parser κ × σ) (f : α → Grammar κ σ ε β) :
    andThen (.ok a, s) f = (f a).exec s := rfl

/-- If the first grammar fails, the second is not run. -/
@[simp] theorem exec_bind (g : Grammar κ σ ε α) (f : α → Grammar κ σ ε β) (s : Parser κ × σ) :
    (g >>= f).exec s = andThen (g.exec s) f := by
  change ExceptT.bindCont f (g s).1 (g s).2 = andThen (g s) f
  rcases g s with ⟨a | e, s'⟩ <;> rfl

/-- The last thing that a grammar does is to return what comes of another. -/
theorem exec_return {g : Grammar κ σ ε α} {s s' : Parser κ × σ} {a : α}
    (h : g.exec s = (.ok a, s')) (f : α → β) :
    (do return f (← g) : Grammar κ σ ε β).exec s = (.ok (f a), s') := by
  rw [exec_bind, h, andThen_ok, exec_pure]

/-- A choice is run as what was chosen. -/
@[simp] theorem exec_ite {p : Prop} [Decidable p] (g h : Grammar κ σ ε α) (s : Parser κ × σ) :
    (if p then g else h).exec s = if p then g.exec s else h.exec s := by
  split <;> rfl

/-! ## The cursor -/

@[simp] theorem exec_advance (s : Parser κ × σ) :
    (advance : Grammar κ σ ε Unit).exec s = (.ok (), (s.1.move s.1.cursor.advance, s.2)) := rfl

@[simp] theorem exec_push (tokens : List (Token κ)) (s : Parser κ × σ) :
    (push tokens : Grammar κ σ ε Unit).exec s = (.ok (), (s.1.push tokens, s.2)) := rfl

/-- A token that is accepted is told of; otherwise nothing changes. -/
theorem exec_accept? [BEq κ] (kind : κ) (s : Parser κ × σ) :
    (accept? kind : Grammar κ σ ε (Option (Token κ))).exec s =
      match s.1.cursor.accept? kind with
      | some (t, c) => (.ok (some t), (s.1.accepted [t] c, s.2))
      | none => (.ok none, s) := by
  simp only [accept?, exec_bind, exec_cursor, andThen_ok]
  rcases s.1.cursor.accept? kind with _ | ⟨t, c⟩ <;> rfl

/-- What was expected is accepted; otherwise there is a diagnostic and nothing changes. -/
theorem exec_expect [BEq κ] (kind : κ) (s : Parser κ × σ) :
    (expect kind : Grammar κ σ ε (Except Diagnostic (Token κ))).exec s =
      match s.1.cursor.accept? kind with
      | some (t, c) => (.ok (.ok t), (s.1.accepted [t] c, s.2))
      | none => (.ok (.error s.1.cursor.mismatch), s) := by
  simp only [expect, Cursor.expect, exec_bind, exec_cursor, andThen_ok]
  rcases s.1.cursor.accept? kind with _ | ⟨t, c⟩ <;> rfl

/-! ## Parsing -/

/-- A text that cannot be lexed is not parsed. -/
theorem exec_parse_of_error {fromDiagnostic : Diagnostic → ε} {text : String}
    {g : Grammar κ σ ε α} {s : Parser κ × σ} {d : Diagnostic} (h : s.1.lexer.lex text = .error d) :
    (parse fromDiagnostic text g).exec s =
      (.error (fromDiagnostic d), ((s.1.enter text).leave, s.2)) := by
  have h' : (s.1.lexer.scan text).result text = .error d := h
  simp only [parse, exec_bind, exec_get, exec_modifyParser, andThen_ok, h', exec_pure, exec_resume]
  rfl

/-- A text that can be lexed is parsed with the cursor in front of its tokens. -/
theorem exec_parse_of_ok {fromDiagnostic : Diagnostic → ε} {text : String}
    {g : Grammar κ σ ε α} {s : Parser κ × σ} {tokens : List (Token κ)}
    (h : s.1.lexer.lex text = .ok tokens) :
    (parse fromDiagnostic text g).exec s =
      let r := g.exec ((s.1.enter text).push tokens, s.2)
      (r.1, (r.2.1.leave, r.2.2)) := by
  have h' : (s.1.lexer.scan text).result text = .ok tokens := h
  simp only [parse, exec_bind, exec_get, exec_modifyParser, andThen_ok, h', exec_push,
    exec_outcome, exec_resume]
  rfl

end Grammar

end Descent
