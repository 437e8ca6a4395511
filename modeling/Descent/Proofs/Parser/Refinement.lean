import Descent.Proofs.Parser.Run

/-!
# A parser is a list of tokens

A grammar can be any program that uses the parser: what it does next may depend on all that it has
seen, and it may parse other texts on its way. `Program` is the type of such programs. A program can
be run on a parser, as a grammar (`Program.grammar`), or on a plain list of tokens
(`Program.onList`), and nobody can tell which was done: the results are the same, and the parser
always stands in the list that the other run has (`Program.exec_grammar_refines`).

What connects the two is that no program can bring a parser's cursor into a state that is not
primed. The states that it can be brought into are the reachable ones (`Lexer.Reachable`).
-/

namespace Descent

variable {κ σ α : Type}

/-! ## Reachable cursors -/

/-- The cursors that a parser with the lexer can have. -/
inductive Lexer.Reachable [BEq κ] (l : Lexer κ) : Cursor κ → Prop
  /-- of a parser that has not parsed anything -/
  | new : Reachable l (.start "")
  /-- of a text that cannot be lexed -/
  | refused {text : String} {d : Diagnostic} (h : l.lex text = .error d) :
      Reachable l (.start text)
  /-- of a text that is going to be parsed -/
  | filled {text : String} {tokens : List (Token κ)} (h : l.lex text = .ok tokens) :
      Reachable l ((Cursor.start text).push tokens)
  /-- after the lookahead was accepted -/
  | accept {kind : κ} {c d : Cursor κ} {t : Token κ} (hc : Reachable l c)
      (h : c.accept? kind = some (t, d)) : Reachable l d
  /-- after the lookahead was dropped -/
  | advance {c : Cursor κ} (hc : Reachable l c) : Reachable l c.advance
  /-- after tokens were put in front -/
  | push {c : Cursor κ} (hc : Reachable l c) (tokens : List (Token κ)) :
      Reachable l (c.push tokens)

theorem Lexer.Reachable.primed [BEq κ] {l : Lexer κ} {c : Cursor κ} (h : l.Reachable c) :
    c.Primed := by
  cases h with
  | new => exact Cursor.primed_start _
  | refused => exact Cursor.primed_start _
  | filled => exact Cursor.primed_push _ _
  | accept _ h => exact Cursor.primed_of_accept? h
  | advance => exact Cursor.primed_advance _
  | push => exact Cursor.primed_push _ _

/-! ## Programs -/

/-- A program that uses a parser, keeps a `σ` in mind, and yields an `α` or fails. -/
inductive Program (κ σ α : Type) where
  /-- end with a result -/
  | done (result : Except Diagnostic α)
  /-- accept the lookahead, if it is of the kind -/
  | accept (kind : κ) (next : Bool → Program κ σ α)
  /-- accept the lookahead, or learn why it cannot be accepted -/
  | expect (kind : κ) (next : Except Diagnostic (Token κ) → Program κ σ α)
  /-- drop the lookahead -/
  | advance (next : Program κ σ α)
  /-- put tokens in front of what is left -/
  | push (tokens : List (Token κ)) (next : Program κ σ α)
  /-- look at the cursor -/
  | look (next : View κ → Program κ σ α)
  /-- ask what is kept in mind -/
  | remember (next : σ → Program κ σ α)
  /-- keep something else in mind -/
  | keep (memory : σ) (next : Program κ σ α)
  /-- parse a text with a program, on the same parser -/
  | parse (text : String) (inner : Program κ σ α) (next : Except Diagnostic α → Program κ σ α)

namespace Program

/-- The grammar that a program is. -/
def grammar [BEq κ] : Program κ σ α → Grammar κ σ Diagnostic α
  | done result => Grammar.resume result
  | accept kind next => do (next (← Grammar.accept? kind).isSome).grammar
  | expect kind next => do (next (← Grammar.expect kind)).grammar
  | advance next => do
    Grammar.advance
    next.grammar
  | push tokens next => do
    Grammar.push tokens
    next.grammar
  | look next => do (next (← Grammar.cursor).view).grammar
  | remember next => do (next (← get).2).grammar
  | keep memory next => do
    Grammar.modifyMemory fun _ => memory
    next.grammar
  | parse text inner next => do
    (next (← Grammar.outcome (Grammar.parse id text inner.grammar))).grammar

/-- What a program does to a list of tokens. Texts are lexed with `lex`. -/
def onList [BEq κ] (lex : String → Except Diagnostic (List (Token κ))) :
    Program κ σ α → Reading κ × σ → Except Diagnostic α × Reading κ × σ
  | done result, (r, m) => (result, r, m)
  | accept kind next, (r, m) =>
    match r.accept? kind with
    | some (_, r) => (next true).onList lex (r, m)
    | none => (next false).onList lex (r, m)
  | expect kind next, (r, m) =>
    match r.accept? kind with
    | some (t, r) => (next (.ok t)).onList lex (r, m)
    | none => (next (.error r.mismatch)).onList lex (r, m)
  | advance next, (r, m) => next.onList lex (r.advance, m)
  | push tokens next, (r, m) => next.onList lex (r.push tokens, m)
  | look next, (r, m) => (next r.view).onList lex (r, m)
  | remember next, (r, m) => (next m).onList lex (r, m)
  | keep memory next, (r, _) => next.onList lex (r, memory)
  | parse text inner next, (_, m) =>
    match lex text with
    | .error d => (next (.error d)).onList lex (⟨text, none, []⟩, m)
    | .ok tokens =>
      let (result, s) := inner.onList lex (⟨text, none, tokens⟩, m)
      (next result).onList lex s

/-! ## Nobody can tell -/

/-- Two runs agree: the results are the same, the parser stands in the list, and the same is kept in
mind. Besides, the parser has kept its lexer, and its cursor is reachable. -/
structure Agree [BEq κ] (l : Lexer κ) (run : Except Diagnostic α × Parser κ × σ)
    (plain : Except Diagnostic α × Reading κ × σ) : Prop where
  result : run.1 = plain.1
  reading : run.2.1.cursor.reading = plain.2.1
  memory : run.2.2 = plain.2.2
  lexer : run.2.1.lexer = l
  reachable : l.Reachable run.2.1.cursor

variable [BEq κ] {l : Lexer κ}

/-- Whatever state a parser is in, a program agrees with itself on the list of tokens. -/
theorem agree (prog : Program κ σ α) (p : Parser κ) (m : σ) (hlexer : p.lexer = l)
    (hp : l.Reachable p.cursor) :
    Agree l (prog.grammar.exec (p, m)) (prog.onList l.lex (p.cursor.reading, m)) := by
  induction prog generalizing p m with
  | done result =>
    rw [grammar, Grammar.exec_resume]
    exact ⟨rfl, rfl, rfl, hlexer, hp⟩
  | accept kind next ih =>
    have haccept := hp.primed.reading_accept? kind
    rw [grammar, Grammar.exec_bind, Grammar.exec_accept?, onList, ← haccept]
    rcases h : p.cursor.accept? kind with _ | ⟨t, c⟩
    · exact ih false p m hlexer hp
    · exact ih true (p.accepted [t] c) m hlexer (hp.accept h)
  | expect kind next ih =>
    have haccept := hp.primed.reading_accept? kind
    rw [grammar, Grammar.exec_bind, Grammar.exec_expect, onList, ← haccept]
    rcases h : p.cursor.accept? kind with _ | ⟨t, c⟩
    · rw [← hp.primed.mismatch_eq]
      exact ih (.error p.cursor.mismatch) p m hlexer hp
    · exact ih (.ok t) (p.accepted [t] c) m hlexer (hp.accept h)
  | advance next ih =>
    rw [grammar, Grammar.exec_bind, Grammar.exec_advance, onList, ← hp.primed.reading_advance]
    exact ih (p.move p.cursor.advance) m hlexer hp.advance
  | push tokens next ih =>
    rw [grammar, Grammar.exec_bind, Grammar.exec_push, onList, ← Cursor.reading_push]
    exact ih (p.push tokens) m hlexer (hp.push tokens)
  | look next ih =>
    rw [grammar, Grammar.exec_bind, Grammar.exec_cursor, onList, ← hp.primed.view_eq]
    exact ih p.cursor.view p m hlexer hp
  | remember next ih =>
    rw [grammar, Grammar.exec_bind, Grammar.exec_get, onList]
    exact ih m p m hlexer hp
  | keep memory next ih =>
    rw [grammar, Grammar.exec_bind, Grammar.exec_modifyMemory, onList]
    exact ih p memory hlexer hp
  | parse text inner next ihinner ihnext =>
    rw [grammar, Grammar.exec_bind, Grammar.exec_outcome, onList]
    cases hlex : l.lex text with
    | error d =>
      rw [Grammar.exec_parse_of_error (hlexer ▸ hlex)]
      exact ihnext (.error d) (p.enter text).leave m hlexer (.refused hlex)
    | ok tokens =>
      rw [Grammar.exec_parse_of_ok (hlexer ▸ hlex)]
      have hinner := ihinner ((p.enter text).push tokens) m hlexer (.filled hlex)
      rw [Parser.reading_push_enter] at hinner
      dsimp only
      -- the outer program goes on from wherever the inner one has left the cursor
      generalize inner.grammar.exec ((p.enter text).push tokens, m) = run at hinner ⊢
      generalize inner.onList l.lex (⟨text, none, tokens⟩, m) = plain at hinner ⊢
      obtain ⟨result, q, memory⟩ := run
      obtain ⟨result', r, memory'⟩ := plain
      obtain ⟨rfl, rfl, rfl, hq, hreachable⟩ := hinner
      exact ihnext result q.leave memory hq hreachable

/-- **A parser is a list of tokens.** A program that is run on a new parser yields what it yields on
a list of tokens, and the parser then stands in that list. Every cursor that a parser can have has a
lookahead unless nothing is left, and what is not the lookahead waits behind it. -/
theorem exec_grammar_refines (l : Lexer κ) (prog : Program κ σ α) (memory : σ) :
    (let run := prog.grammar.exec (.new l, memory)
     (run.1, run.2.1.cursor.reading, run.2.2) = prog.onList l.lex (.start "", memory) ∧
       run.2.1.lexer = l ∧ l.Reachable run.2.1.cursor) ∧
    ∀ c, l.Reachable c →
      (c.next = none ↔ c.stream = []) ∧ c.next = c.stream.head? ∧ c.pending = c.stream.tail ∧
        (c.isExhausted = true → c.pending.length = 0) ∧
        (c.isExhausted = false → c.pending.length + 1 = c.stream.length) := by
  constructor
  · have h := agree prog (.new l) memory rfl .new
    refine ⟨?_, h.lexer, h.reachable⟩
    exact Prod.ext h.result (Prod.ext h.reading h.memory)
  · intro c hc
    have hprimed := hc.primed
    refine ⟨hprimed.next_eq_none_iff, hprimed.next_eq, hprimed.pending_eq, ?_, ?_⟩
    · intro h
      have hnext := Option.isNone_iff_eq_none.1 h
      rw [hprimed hnext, List.length_nil]
    · intro h
      have hstream : c.stream ≠ [] := by
        intro hstream
        rw [Cursor.isExhausted, hprimed.next_eq_none_iff.2 hstream] at h
        cases h
      have hpos := List.length_pos_iff.2 hstream
      rw [hprimed.length_pending]
      omega

end Program

end Descent
