import Descent.Proofs.Parser.Refinement
import Descent.Script

/-!
# What is done with a parser, and what comes of it

A session is a list of things to do with a parser, each of which has an answer; a parse holds a
session of its own and then comes to a result. To hold a session (`Session.grammar`) is to do all of
them, and yields the history: the things that were done, with their answers.

All that can come of one thing is said once, by the relation between a parser, a history, and the
parser afterwards (`Happens`). Whatever session is held, its history happens
(`Session.exists_happens`), and what happens can be held again (`Happens.exec_session`). So proofs
about sessions are by induction on what happens. They are about all programs, too: what a program
does to a parser on one of its runs is a history that happens (`Program.exists_happens`).
-/

namespace Descent

variable {κ σ α : Type}

/-- Things to do with a parser, one after the other. -/
inductive Session (κ α : Type) where
  /-- there is nothing to do -/
  | done
  /-- accept the lookahead, if it is of the kind -/
  | accept (kind : κ) (rest : Session κ α)
  /-- accept the lookahead, or learn why it cannot be accepted -/
  | expect (kind : κ) (rest : Session κ α)
  /-- drop the lookahead -/
  | advance (rest : Session κ α)
  /-- put tokens in front of what is left -/
  | push (tokens : List (Token κ)) (rest : Session κ α)
  /-- make a diagnostic -/
  | complain (complaint : Complaint) (rest : Session κ α)
  /-- parse a text with a grammar that holds a session and then comes to a result -/
  | parse (text : String) (inner : Session κ α) (result : Except Diagnostic α)
    (rest : Session κ α)

/-- What was done with a parser, and what has come of it. -/
inductive History (κ α : Type) where
  /-- nothing was done -/
  | done
  /-- the lookahead was accepted, or it was not of the kind -/
  | accept (kind : κ) (answer : Option (Token κ)) (rest : History κ α)
  /-- the lookahead was accepted, or there was a diagnostic -/
  | expect (kind : κ) (answer : Except Diagnostic (Token κ)) (rest : History κ α)
  /-- the lookahead was dropped -/
  | advance (rest : History κ α)
  /-- tokens were put in front of what was left -/
  | push (tokens : List (Token κ)) (rest : History κ α)
  /-- a diagnostic was made -/
  | complain (complaint : Complaint) (answer : Diagnostic) (rest : History κ α)
  /-- a text was parsed; nothing was done with its tokens if it had none -/
  | parse (text : String) (inner : History κ α) (answer : Except Diagnostic α)
    (rest : History κ α)

/-- Hold a session. What is kept in mind is the history of a parse, for as long as the parse is
going on. -/
def Session.grammar [BEq κ] : Session κ α → Grammar κ (History κ α) Diagnostic (History κ α)
  | done => return .done
  | accept kind rest => do
    let answer ← Grammar.accept? kind
    return .accept kind answer (← rest.grammar)
  | expect kind rest => do
    let answer ← Grammar.expect kind
    return .expect kind answer (← rest.grammar)
  | advance rest => do
    Grammar.advance
    return .advance (← rest.grammar)
  | push tokens rest => do
    Grammar.push tokens
    return .push tokens (← rest.grammar)
  | complain complaint rest => do
    let answer := (← Grammar.cursor).complain complaint
    return .complain complaint answer (← rest.grammar)
  | parse text inner result rest => do
    Grammar.modifyMemory fun _ => .done
    let answer ← Grammar.outcome <| Grammar.parse id text do
      let history ← inner.grammar
      Grammar.modifyMemory fun _ => history
      Grammar.resume result
    let (_, history) ← get
    return .parse text history answer (← rest.grammar)

/-- The session that was held, without the answers. -/
def History.session : History κ α → Session κ α
  | done => .done
  | accept kind _ rest => .accept kind rest.session
  | expect kind _ rest => .expect kind rest.session
  | advance rest => .advance rest.session
  | push tokens rest => .push tokens rest.session
  | complain complaint _ rest => .complain complaint rest.session
  | parse text inner answer rest => .parse text inner.session answer rest.session

/-- From one parser to another, all this is done and comes of it. -/
inductive Happens [BEq κ] : Parser κ → History κ α → Parser κ → Prop where
  /-- nothing is done -/
  | done (p : Parser κ) : Happens p .done p
  /-- the lookahead is accepted -/
  | accept {p q : Parser κ} {kind : κ} {t : Token κ} {c : Cursor κ} {h : History κ α}
      (hc : p.cursor.accept? kind = some (t, c)) (hrest : Happens (p.accepted [t] c) h q) :
      Happens p (.accept kind (some t) h) q
  /-- the lookahead is not of the kind -/
  | refuse {p q : Parser κ} {kind : κ} {h : History κ α} (hc : p.cursor.accept? kind = none)
      (hrest : Happens p h q) : Happens p (.accept kind none h) q
  /-- what was expected is accepted -/
  | expect {p q : Parser κ} {kind : κ} {t : Token κ} {c : Cursor κ} {h : History κ α}
      (hc : p.cursor.accept? kind = some (t, c)) (hrest : Happens (p.accepted [t] c) h q) :
      Happens p (.expect kind (.ok t) h) q
  /-- something else was expected -/
  | mismatch {p q : Parser κ} {kind : κ} {h : History κ α} (hc : p.cursor.accept? kind = none)
      (hrest : Happens p h q) : Happens p (.expect kind (.error p.cursor.mismatch) h) q
  /-- the lookahead is dropped -/
  | advance {p q : Parser κ} {h : History κ α} (hrest : Happens (p.move p.cursor.advance) h q) :
      Happens p (.advance h) q
  /-- tokens are put in front of what is left -/
  | push {p q : Parser κ} {tokens : List (Token κ)} {h : History κ α}
      (hrest : Happens (p.push tokens) h q) : Happens p (.push tokens h) q
  /-- a diagnostic is made -/
  | complain {p q : Parser κ} {complaint : Complaint} {h : History κ α} (hrest : Happens p h q) :
      Happens p (.complain complaint (p.cursor.complain complaint) h) q
  /-- a text cannot be lexed -/
  | unlexed {p q : Parser κ} {text : String} {d : Diagnostic} {h : History κ α}
      (hlex : p.lexer.lex text = .error d) (hrest : Happens (p.enter text).leave h q) :
      Happens p (.parse text .done (.error d) h) q
  /-- a text is parsed -/
  | parse {p p' q : Parser κ} {text : String} {tokens : List (Token κ)} {inner h : History κ α}
      {result : Except Diagnostic α} (hlex : p.lexer.lex text = .ok tokens)
      (hinner : Happens ((p.enter text).push tokens) inner p') (hrest : Happens p'.leave h q) :
      Happens p (.parse text inner result h) q

variable [BEq κ]

/-! ## Sessions happen, and what happens can be held -/

namespace Session

variable {p q : Parser κ} {kind : κ} {rest : Session κ α} {m m' : History κ α} {h : History κ α}

theorem exec_accept_of_some {t : Token κ} {c : Cursor κ}
    (hc : p.cursor.accept? kind = some (t, c))
    (hrest : rest.grammar.exec (p.accepted [t] c, m) = (.ok h, (q, m'))) :
    (accept kind rest).grammar.exec (p, m) = (.ok (.accept kind (some t) h), (q, m')) := by
  rw [grammar, Grammar.exec_bind, Grammar.exec_accept?, hc]
  exact Grammar.exec_return hrest _

theorem exec_accept_of_none (hc : p.cursor.accept? kind = none)
    (hrest : rest.grammar.exec (p, m) = (.ok h, (q, m'))) :
    (accept kind rest).grammar.exec (p, m) = (.ok (.accept kind none h), (q, m')) := by
  rw [grammar, Grammar.exec_bind, Grammar.exec_accept?, hc]
  exact Grammar.exec_return hrest _

theorem exec_expect_of_some {t : Token κ} {c : Cursor κ}
    (hc : p.cursor.accept? kind = some (t, c))
    (hrest : rest.grammar.exec (p.accepted [t] c, m) = (.ok h, (q, m'))) :
    (expect kind rest).grammar.exec (p, m) = (.ok (.expect kind (.ok t) h), (q, m')) := by
  rw [grammar, Grammar.exec_bind, Grammar.exec_expect, hc]
  exact Grammar.exec_return hrest _

theorem exec_expect_of_none (hc : p.cursor.accept? kind = none)
    (hrest : rest.grammar.exec (p, m) = (.ok h, (q, m'))) :
    (expect kind rest).grammar.exec (p, m) =
      (.ok (.expect kind (.error p.cursor.mismatch) h), (q, m')) := by
  rw [grammar, Grammar.exec_bind, Grammar.exec_expect, hc]
  exact Grammar.exec_return hrest _

theorem exec_parse_of_error {text : String} {d : Diagnostic} (hlex : p.lexer.lex text = .error d)
    (inner : Session κ α) (result : Except Diagnostic α)
    (hrest : rest.grammar.exec ((p.enter text).leave, .done) = (.ok h, (q, m'))) :
    (parse text inner result rest).grammar.exec (p, m) =
      (.ok (.parse text .done (.error d) h), (q, m')) := by
  rw [grammar, Grammar.exec_bind, Grammar.exec_modifyMemory, Grammar.andThen_ok, Grammar.exec_bind,
    Grammar.exec_outcome, Grammar.exec_parse_of_error hlex]
  exact Grammar.exec_return hrest _

theorem exec_parse_of_ok {text : String} {tokens : List (Token κ)} {inner : Session κ α}
    {i : History κ α} {p' : Parser κ} {m₁ : History κ α} (result : Except Diagnostic α)
    (hlex : p.lexer.lex text = .ok tokens)
    (hinner : inner.grammar.exec ((p.enter text).push tokens, .done) = (.ok i, (p', m₁)))
    (hrest : rest.grammar.exec (p'.leave, i) = (.ok h, (q, m'))) :
    (parse text inner result rest).grammar.exec (p, m) =
      (.ok (.parse text i result h), (q, m')) := by
  rw [grammar, Grammar.exec_bind, Grammar.exec_modifyMemory, Grammar.andThen_ok, Grammar.exec_bind,
    Grammar.exec_outcome, Grammar.exec_parse_of_ok hlex]
  -- the history of the parse is what is kept in mind when its grammar comes to the result
  simp only [Grammar.exec_bind, hinner, Grammar.andThen_ok, Grammar.exec_modifyMemory,
    Grammar.exec_resume]
  exact Grammar.exec_return hrest _

/-- **Whatever session is held, its history happens.** -/
theorem exists_happens (session : Session κ α) (p : Parser κ) (m : History κ α) :
    ∃ h q m', session.grammar.exec (p, m) = (.ok h, (q, m')) ∧ Happens p h q := by
  induction session generalizing p m with
  | done => exact ⟨.done, p, m, rfl, .done p⟩
  | accept kind rest ih =>
    rcases hc : p.cursor.accept? kind with _ | ⟨t, c⟩
    · obtain ⟨h, q, m', hrun, hh⟩ := ih p m
      exact ⟨_, q, m', exec_accept_of_none hc hrun, .refuse hc hh⟩
    · obtain ⟨h, q, m', hrun, hh⟩ := ih (p.accepted [t] c) m
      exact ⟨_, q, m', exec_accept_of_some hc hrun, .accept hc hh⟩
  | expect kind rest ih =>
    rcases hc : p.cursor.accept? kind with _ | ⟨t, c⟩
    · obtain ⟨h, q, m', hrun, hh⟩ := ih p m
      exact ⟨_, q, m', exec_expect_of_none hc hrun, .mismatch hc hh⟩
    · obtain ⟨h, q, m', hrun, hh⟩ := ih (p.accepted [t] c) m
      exact ⟨_, q, m', exec_expect_of_some hc hrun, .expect hc hh⟩
  | advance rest ih =>
    obtain ⟨h, q, m', hrun, hh⟩ := ih (p.move p.cursor.advance) m
    exact ⟨_, q, m', Grammar.exec_return hrun History.advance, .advance hh⟩
  | push tokens rest ih =>
    obtain ⟨h, q, m', hrun, hh⟩ := ih (p.push tokens) m
    exact ⟨_, q, m', Grammar.exec_return hrun (History.push tokens), .push hh⟩
  | complain complaint rest ih =>
    obtain ⟨h, q, m', hrun, hh⟩ := ih p m
    exact ⟨_, q, m', Grammar.exec_return hrun (History.complain complaint _), .complain hh⟩
  | parse text inner result rest ihinner ihrest =>
    cases hlex : p.lexer.lex text with
    | error d =>
      obtain ⟨h, q, m', hrun, hh⟩ := ihrest (p.enter text).leave .done
      exact ⟨_, q, m', exec_parse_of_error hlex inner result hrun, .unlexed hlex hh⟩
    | ok tokens =>
      obtain ⟨i, p', m₁, hinner, hi⟩ := ihinner ((p.enter text).push tokens) .done
      obtain ⟨h, q, m', hrun, hh⟩ := ihrest p'.leave i
      exact ⟨_, q, m', exec_parse_of_ok result hlex hinner hrun, .parse hlex hi hh⟩

end Session

/-- **What happens can be held as a session**, whatever is kept in mind. -/
theorem Happens.exec_session {p q : Parser κ} {h : History κ α} (hh : Happens p h q)
    (m : History κ α) : ∃ m', h.session.grammar.exec (p, m) = (.ok h, (q, m')) := by
  induction hh generalizing m with
  | done p => exact ⟨m, rfl⟩
  | accept hc _ ih =>
    obtain ⟨m', hrun⟩ := ih m
    exact ⟨m', Session.exec_accept_of_some hc hrun⟩
  | refuse hc _ ih =>
    obtain ⟨m', hrun⟩ := ih m
    exact ⟨m', Session.exec_accept_of_none hc hrun⟩
  | expect hc _ ih =>
    obtain ⟨m', hrun⟩ := ih m
    exact ⟨m', Session.exec_expect_of_some hc hrun⟩
  | mismatch hc _ ih =>
    obtain ⟨m', hrun⟩ := ih m
    exact ⟨m', Session.exec_expect_of_none hc hrun⟩
  | advance _ ih =>
    obtain ⟨m', hrun⟩ := ih m
    exact ⟨m', Grammar.exec_return hrun History.advance⟩
  | @push _ _ tokens _ _ ih =>
    obtain ⟨m', hrun⟩ := ih m
    exact ⟨m', Grammar.exec_return hrun (History.push tokens)⟩
  | @complain _ _ complaint _ _ ih =>
    obtain ⟨m', hrun⟩ := ih m
    exact ⟨m', Grammar.exec_return hrun (History.complain complaint _)⟩
  | unlexed hlex _ ih =>
    obtain ⟨m', hrun⟩ := ih .done
    exact ⟨m', Session.exec_parse_of_error hlex _ _ hrun⟩
  | parse hlex _ _ ihinner ihrest =>
    obtain ⟨_, hinner⟩ := ihinner .done
    obtain ⟨m', hrun⟩ := ihrest _
    exact ⟨m', Session.exec_parse_of_ok _ hlex hinner hrun⟩

/-- **What a program does to a parser happens**: it is the history of a session. -/
theorem Program.exists_happens (prog : Program κ σ α) (p : Parser κ) (m : σ) :
    ∃ h : History κ α, Happens p h (prog.grammar.exec (p, m)).2.1 := by
  induction prog generalizing p m with
  | done result =>
    rw [grammar, Grammar.exec_resume]
    exact ⟨.done, .done p⟩
  | accept kind next ih =>
    rw [grammar, Grammar.exec_bind, Grammar.exec_accept?]
    rcases hc : p.cursor.accept? kind with _ | ⟨t, c⟩
    · obtain ⟨h, hh⟩ := ih false p m
      exact ⟨_, .refuse hc hh⟩
    · obtain ⟨h, hh⟩ := ih true (p.accepted [t] c) m
      exact ⟨_, .accept hc hh⟩
  | expect kind next ih =>
    rw [grammar, Grammar.exec_bind, Grammar.exec_expect]
    rcases hc : p.cursor.accept? kind with _ | ⟨t, c⟩
    · obtain ⟨h, hh⟩ := ih (.error p.cursor.mismatch) p m
      exact ⟨_, .mismatch hc hh⟩
    · obtain ⟨h, hh⟩ := ih (.ok t) (p.accepted [t] c) m
      exact ⟨_, .expect hc hh⟩
  | advance next ih =>
    obtain ⟨h, hh⟩ := ih (p.move p.cursor.advance) m
    exact ⟨_, .advance hh⟩
  | push tokens next ih =>
    obtain ⟨h, hh⟩ := ih (p.push tokens) m
    exact ⟨_, .push hh⟩
  | look next ih => exact ih p.cursor.view p m
  | remember next ih => exact ih m p m
  | keep memory next ih => exact ih p memory
  | parse text inner next ihinner ihnext =>
    rw [grammar, Grammar.exec_bind, Grammar.exec_outcome]
    cases hlex : p.lexer.lex text with
    | error d =>
      rw [Grammar.exec_parse_of_error hlex]
      obtain ⟨h, hh⟩ := ihnext (.error d) (p.enter text).leave m
      exact ⟨_, .unlexed hlex hh⟩
    | ok tokens =>
      rw [Grammar.exec_parse_of_ok hlex]
      obtain ⟨i, hi⟩ := ihinner ((p.enter text).push tokens) m
      dsimp only
      -- the outer program goes on from wherever the inner one has left the parser
      generalize inner.grammar.exec ((p.enter text).push tokens, m) = run at hi ⊢
      obtain ⟨result, p', m'⟩ := run
      obtain ⟨h, hh⟩ := ihnext result p'.leave m'
      exact ⟨.parse text i result h, .parse hlex hi hh⟩

namespace Happens

variable {p q : Parser κ} {h : History κ α}

theorem lexer_eq (hh : Happens p h q) : q.lexer = p.lexer := by
  induction hh with
  | done => rfl
  | accept _ _ ih | refuse _ _ ih | expect _ _ ih | mismatch _ _ ih => exact ih
  | advance _ ih | push _ ih | complain _ ih => exact ih
  | unlexed _ _ ih => exact ih
  | parse _ _ _ ihinner ihrest => exact ihrest.trans ihinner

/-- What happens leads from a reachable cursor to a reachable cursor. -/
theorem reachable (hh : Happens p h q) (hp : p.lexer.Reachable p.cursor) :
    p.lexer.Reachable q.cursor := by
  induction hh with
  | done => exact hp
  | accept hc _ ih | expect hc _ ih => exact ih (hp.accept hc)
  | refuse _ _ ih | mismatch _ _ ih => exact ih hp
  | advance _ ih => exact ih hp.advance
  | push _ ih => exact ih (hp.push _)
  | complain _ ih => exact ih hp
  | unlexed hlex _ ih => exact ih (.refused hlex)
  | parse hlex hinner _ ihinner ihrest =>
    have hlexer := hinner.lexer_eq
    have hreachable := ihinner (.filled hlex)
    rw [Parser.lexer_leave, hlexer] at ihrest
    exact ihrest hreachable

end Happens

end Descent
