import Descent.Calculator.Kind
import Descent.Proofs.Parser.Run

/-!
# Nothing is lost when tokens are spliced in

Between two parses a parser is moved through one stream: tokens leave it at the front, one by one,
and lists of tokens are put in front of it. A list of such moves (`Motion`) is a grammar of its own
(`Motion.perform`), which yields the tokens that have left.

All that a move can do is said once (`Motion.Moves`): a token leaves, or tokens are put in front. By
induction on the moves, what has left and what is left are then made up of the tokens of the text
and of the lists that were pushed, each of them in its order (`Motion.Flows.perm`,
`Motion.Flows.sublist`, `Motion.Flows.pushed_sublist`). And the lists are nested: what was there
before a list was pushed is not touched before the list is used up (`Motion.Flows.nested`).

Tokens that are equal cannot be told apart, so tokens are counted and not named.
-/

namespace Descent

variable {κ σ ε : Type}

/-- A move in a stream of tokens. -/
inductive Motion (κ : Type) where
  /-- accept the lookahead, if it is of the kind -/
  | accept (kind : κ)
  /-- accept the lookahead, or learn why it cannot be accepted -/
  | expect (kind : κ)
  /-- drop the lookahead -/
  | advance
  /-- put tokens in front of what is left -/
  | push (tokens : List (Token κ))

namespace Motion

/-- The tokens that a move puts in front. -/
def pushed : Motion κ → List (Token κ)
  | push tokens => tokens
  | _ => []

/-- Make a move. Yields what was the lookahead, if the move has made it leave. -/
def grammar [BEq κ] (move : Motion κ) : Grammar κ σ ε (List (Token κ)) := do
  let lookahead := (← Grammar.cursor).next.toList
  match move with
  | accept kind => return if (← Grammar.accept? kind).isSome then lookahead else []
  | expect kind =>
    match ← Grammar.expect kind with
    | .ok _ => return lookahead
    | .error _ => return []
  | advance => do
    Grammar.advance
    return lookahead
  | push tokens => do
    Grammar.push tokens
    return []

/-- Make moves one after the other. Yields the tokens that have left. -/
def perform [BEq κ] : List (Motion κ) → Grammar κ σ ε (List (Token κ))
  | [] => return []
  | move :: moves => do
    let left ← move.grammar
    return left ++ (← perform moves)

/-! ## One move -/

/-- What a move can do to a stream: the first token leaves, or what is pushed is put in front. -/
inductive Moves (move : Motion κ) :
    List (Token κ) → List (Token κ) → List (Token κ) → Prop where
  /-- the first token leaves -/
  | take {t : Token κ} {stream : List (Token κ)} (h : move.pushed = []) :
      Moves move (t :: stream) [t] stream
  /-- what is pushed, if anything, is put in front -/
  | splice {stream : List (Token κ)} : Moves move stream [] (move.pushed ++ stream)

/-- **A move takes the first token or puts tokens in front.** What it yields is what has left. -/
theorem exec_grammar [BEq κ] (move : Motion κ) {s : Parser κ × σ} (hs : s.1.cursor.Primed) :
    ∃ left p, (move.grammar : Grammar κ σ ε _).exec s = (.ok left, (p, s.2)) ∧
      p.cursor.Primed ∧ Moves move s.1.cursor.stream left p.cursor.stream := by
  have hnext := hs.next_eq
  cases move with
  | accept kind =>
    simp only [grammar, Grammar.exec_bind, Grammar.exec_cursor, Grammar.andThen_ok,
      Grammar.exec_accept?]
    rcases haccept : s.1.cursor.accept? kind with _ | ⟨t, d⟩
    · exact ⟨[], s.1, rfl, hs, .splice⟩
    · rw [hnext, (Cursor.accept?_eq_some haccept).1]
      exact ⟨[t], _, rfl, Cursor.primed_of_accept? haccept, .take rfl⟩
  | expect kind =>
    simp only [grammar, Grammar.exec_bind, Grammar.exec_cursor, Grammar.andThen_ok,
      Grammar.exec_expect]
    rcases haccept : s.1.cursor.accept? kind with _ | ⟨t, d⟩
    · exact ⟨[], s.1, rfl, hs, .splice⟩
    · rw [hnext, (Cursor.accept?_eq_some haccept).1]
      exact ⟨[t], _, rfl, Cursor.primed_of_accept? haccept, .take rfl⟩
  | advance =>
    refine ⟨s.1.cursor.next.toList, s.1.move s.1.cursor.advance, rfl, Cursor.primed_advance _, ?_⟩
    rw [Parser.cursor_move, Cursor.stream_advance, hs.pending_eq, hnext]
    rcases s.1.cursor.stream with _ | ⟨t, rest⟩
    · exact .splice
    · exact .take rfl
  | push tokens =>
    refine ⟨[], s.1.push tokens, rfl, Cursor.primed_push _ _, ?_⟩
    rw [Parser.cursor_push, Cursor.stream_push]
    exact @Moves.splice κ (push tokens) _

/-- What leaves and what is left make up what is put in front and what was there. -/
theorem Moves.append_eq {move : Motion κ} {stream left stream' : List (Token κ)}
    (h : Moves move stream left stream') : left ++ stream' = move.pushed ++ stream := by
  cases h with
  | take h => rw [h, List.singleton_append, List.nil_append]
  | splice => rw [List.nil_append]

/-! ## Many moves -/

/-- What moves do to a stream, one after the other. -/
inductive Flows : List (Motion κ) → List (Token κ) → List (Token κ) → List (Token κ) → Prop where
  /-- nothing is done -/
  | done (stream : List (Token κ)) : Flows [] stream [] stream
  /-- one more move is made first -/
  | step {move : Motion κ} {moves : List (Motion κ)}
      {stream left stream₁ left₁ stream' : List (Token κ)} (h : Moves move stream left stream₁)
      (h' : Flows moves stream₁ left₁ stream') :
      Flows (move :: moves) stream (left ++ left₁) stream'

theorem exec_perform [BEq κ] (moves : List (Motion κ)) {s : Parser κ × σ}
    (hs : s.1.cursor.Primed) :
    ∃ left p, (perform moves : Grammar κ σ ε _).exec s = (.ok left, (p, s.2)) ∧
      p.cursor.Primed ∧ Flows moves s.1.cursor.stream left p.cursor.stream := by
  induction moves generalizing s with
  | nil => exact ⟨[], s.1, rfl, hs, .done _⟩
  | cons move moves ih =>
    obtain ⟨left, p, hrun, hp, hmove⟩ := exec_grammar (σ := σ) (ε := ε) move hs
    obtain ⟨left₁, q, hrun₁, hq, hflow⟩ := ih (s := (p, s.2)) hp
    refine ⟨left ++ left₁, q, ?_, hq, .step hmove hflow⟩
    simp only [perform, Grammar.exec_bind, hrun, Grammar.andThen_ok, hrun₁, Grammar.exec_pure]

/-- To make moves and then other moves is to make all of them. -/
theorem exec_perform_append [BEq κ] {moves moves' : List (Motion κ)} {s s₁ s₂ : Parser κ × σ}
    {left left₁ : List (Token κ)}
    (h : (perform moves : Grammar κ σ ε _).exec s = (.ok left, s₁))
    (h' : (perform moves' : Grammar κ σ ε _).exec s₁ = (.ok left₁, s₂)) :
    (perform (moves ++ moves') : Grammar κ σ ε _).exec s = (.ok (left ++ left₁), s₂) := by
  induction moves generalizing s left with
  | nil =>
    obtain ⟨hleft, rfl⟩ := Prod.mk.inj h
    obtain rfl := Except.ok.inj hleft
    exact h'
  | cons move moves ih =>
    rw [perform, Grammar.exec_bind] at h
    rw [List.cons_append, perform, Grammar.exec_bind]
    rcases hmove : (move.grammar : Grammar κ σ ε _).exec s with ⟨first | e, s'⟩
    · cases hmove ▸ h
    · rw [hmove, Grammar.andThen_ok, Grammar.exec_bind] at h
      rw [Grammar.andThen_ok, Grammar.exec_bind]
      rcases hrest : (perform moves : Grammar κ σ ε _).exec s' with ⟨rest | e, s''⟩
      · cases hrest ▸ h
      · rw [hrest] at h
        obtain ⟨hleft, rfl⟩ := Prod.mk.inj h
        obtain rfl := Except.ok.inj hleft
        rw [ih hrest, Grammar.andThen_ok, List.append_assoc]
        rfl

/-- After a list was pushed in front of a stream, moves have made some tokens leave and a stream is
left: the first stream is still there as it was, or the list was used up before anything of it
left. -/
inductive Nested (list stream : List (Token κ)) (moves : List (Motion κ)) :
    List (Token κ) → List (Token κ) → Prop where
  /-- what has left, and what is left in front of the stream, are the list and what was pushed
  since -/
  | kept {left rest : List (Token κ)} (hlist : list.Sublist (left ++ rest))
      (hperm : (left ++ rest).Perm (list ++ moves.flatMap pushed)) :
      Nested list stream moves left (rest ++ stream)
  /-- at some time exactly the list and what was pushed in the meantime had left; what leaves from
  then on, and what is left, are the stream and what is pushed from then on -/
  | spent {earlier later : List (Motion κ)} {left left' rest : List (Token κ)}
      (hmoves : moves = earlier ++ later) (hlist : list.Sublist left)
      (hperm : left.Perm (list ++ earlier.flatMap pushed))
      (hstream : stream.Sublist (left' ++ rest))
      (hperm' : (left' ++ rest).Perm (stream ++ later.flatMap pushed)) :
      Nested list stream moves (left ++ left') rest

section Step

variable {move : Motion κ} {stream left stream₁ left₁ rest pushes : List (Token κ)}

/-- Nothing is lost by a move and what follows, if nothing is lost by what follows. -/
theorem Moves.perm (h : Moves move stream left stream₁)
    (h' : (left₁ ++ rest).Perm (stream₁ ++ pushes)) :
    (left ++ left₁ ++ rest).Perm (stream ++ (move.pushed ++ pushes)) := calc
  (left ++ left₁ ++ rest).Perm (left ++ (stream₁ ++ pushes)) := by
    rw [List.append_assoc]
    exact h'.append_left left
  _ = move.pushed ++ stream ++ pushes := by rw [← List.append_assoc, h.append_eq]
  List.Perm _ (stream ++ move.pushed ++ pushes) := List.perm_append_comm.append_right pushes
  _ = stream ++ (move.pushed ++ pushes) := List.append_assoc _ _ _

/-- What is put in front by a move, and what was there, stay in their order, if they do so in what
follows. -/
theorem Moves.sublist (h : Moves move stream left stream₁) (h' : stream₁.Sublist (left₁ ++ rest)) :
    (move.pushed ++ stream).Sublist (left ++ left₁ ++ rest) := by
  rw [← h.append_eq, List.append_assoc]
  exact h'.append_left left

/-- A move does not see further than the first token. -/
theorem Moves.of_cons_append {t : Token κ} {list : List (Token κ)}
    (h : Moves move (t :: list ++ stream) left stream₁) :
    ∃ list₁, stream₁ = list₁ ++ stream ∧ Moves move (t :: list) left list₁ := by
  cases h with
  | take h => exact ⟨list, rfl, .take h⟩
  | splice => exact ⟨_, (List.append_assoc _ _ _).symm, .splice⟩

/-- A move in what is left of a list keeps the stream behind the list nested. -/
theorem Nested.of_moves {list list₁ : List (Token κ)} {moves : List (Motion κ)}
    (hmove : Moves move list left list₁) (h : Nested list₁ stream moves left₁ rest) :
    Nested list stream (move :: moves) (left ++ left₁) rest := by
  have hsub : list.Sublist (move.pushed ++ list) := List.sublist_append_right _ _
  cases h with
  | kept hlist hperm =>
    refine .kept (hsub.trans (hmove.sublist hlist)) ?_
    rw [List.flatMap_cons]
    exact hmove.perm hperm
  | @spent earlier later before after _ hmoves hlist hperm hstream hperm' =>
    have hlist' : list₁.Sublist (before ++ []) := by rwa [List.append_nil]
    have hperm₀ : (before ++ []).Perm (list₁ ++ earlier.flatMap pushed) := by
      rwa [List.append_nil]
    rw [← List.append_assoc]
    have hmoves' : move :: moves = (move :: earlier) ++ later := by rw [hmoves, List.cons_append]
    refine .spent hmoves' ?_ ?_ hstream hperm'
    · simpa using hsub.trans (hmove.sublist hlist')
    · simpa using hmove.perm hperm₀

end Step

namespace Flows

variable {moves : List (Motion κ)} {stream left stream' : List (Token κ)}

/-- Nothing is lost, and nothing is doubled. -/
theorem perm (h : Flows moves stream left stream') :
    (left ++ stream').Perm (stream ++ moves.flatMap pushed) := by
  induction h with
  | done stream => rw [List.flatMap_nil, List.append_nil, List.nil_append]
  | step hmove _ ih => exact hmove.perm ih

/-- What was there stays in its order. -/
theorem sublist (h : Flows moves stream left stream') : stream.Sublist (left ++ stream') := by
  induction h with
  | done stream => exact List.Sublist.refl stream
  | step hmove _ ih => exact (List.sublist_append_right _ _).trans (hmove.sublist ih)

/-- What is pushed stays in its order. -/
theorem pushed_sublist (h : Flows moves stream left stream') {move : Motion κ}
    (hmem : move ∈ moves) : move.pushed.Sublist (left ++ stream') := by
  induction h with
  | done => cases hmem
  | step hmove h ih =>
    rcases List.mem_cons.1 hmem with rfl | hmem
    · exact (List.sublist_append_left _ _).trans (hmove.sublist h.sublist)
    · rw [List.append_assoc]
      exact (ih hmem).trans (List.sublist_append_right _ _)

/-- **What is pushed last leaves first.** -/
theorem nested {list : List (Token κ)} (h : Flows moves (list ++ stream) left stream') :
    Nested list stream moves left stream' := by
  induction moves generalizing list left with
  | nil =>
    cases h
    exact .kept (List.Sublist.refl list) (by simp)
  | cons move moves ih =>
    rcases list with _ | ⟨t, list⟩
    · -- the list is used up already: from here on it is the stream that tokens leave
      have hmoves : move :: moves = [] ++ move :: moves := rfl
      exact .spent hmoves (.refl []) (.refl []) h.sublist h.perm
    · cases h with
      | step hmove h =>
        obtain ⟨list₁, rfl, hlist⟩ := hmove.of_cons_append
        exact (ih h).of_moves hlist

end Flows

/-! ## Between two parses -/

/-- After a list was pushed, what was there before is nested behind it. -/
theorem exists_nested [BEq κ] (list : List (Token κ)) (moves : List (Motion κ))
    (s : Parser κ × σ) :
    ∃ left p, (perform (.push list :: moves) : Grammar κ σ ε _).exec s = (.ok left, (p, s.2)) ∧
      Nested list s.1.cursor.stream moves left p.cursor.stream := by
  obtain ⟨left, p, hrun, -, hflow⟩ :=
    exec_perform (ε := ε) moves (s := (s.1.push list, s.2)) (Cursor.primed_push _ _)
  rw [Parser.cursor_push, Cursor.stream_push] at hflow
  refine ⟨left, p, ?_, hflow.nested⟩
  simp only [perform, grammar, Grammar.exec_bind, Grammar.exec_cursor, Grammar.exec_push,
    Grammar.exec_pure, Grammar.andThen_ok, hrun, List.nil_append]

/-- A text that can be lexed is parsed by making the moves in front of its tokens. -/
theorem exec_parse_eq [BEq κ] {fromDiagnostic : Diagnostic → ε} {p q : Parser κ} {text : String}
    {tokens left : List (Token κ)} {m : σ} {moves : List (Motion κ)}
    (hlex : p.lexer.lex text = .ok tokens)
    (hrun : (perform moves : Grammar κ σ ε _).exec ((p.enter text).push tokens, m) =
      (.ok left, (q, m))) :
    (Grammar.parse fromDiagnostic text (perform moves)).exec (p, m) = (.ok left, (q.leave, m)) := by
  rw [Grammar.exec_parse_of_ok hlex, hrun]

/-- **No token is lost, doubled or reordered.** When a text has been lexed and any moves have been
made, then what has left (`left`) and what is left (`rest`) together are the tokens of the text and
the pushed lists, each of them in its order. Whenever a list is pushed, what was there before is
nested behind it. -/
theorem exec_parse_perform [BEq κ] (fromDiagnostic : Diagnostic → ε) {p : Parser κ}
    {text : String} {tokens : List (Token κ)} (hlex : p.lexer.lex text = .ok tokens) (m : σ)
    (moves : List (Motion κ)) :
    ∃ left q, (Grammar.parse fromDiagnostic text (perform moves)).exec (p, m) =
        (.ok left, (q, m)) ∧
      let rest := q.cursor.next.toList ++ q.cursor.pending
      (left ++ rest).Perm (tokens ++ moves.flatMap pushed) ∧
      tokens.Sublist (left ++ rest) ∧
      (∀ list, .push list ∈ moves → list.Sublist (left ++ rest)) ∧
      ∀ before list after, moves = before ++ .push list :: after →
        ∃ left₁ left₂ q₁, left = left₁ ++ left₂ ∧
          (Grammar.parse fromDiagnostic text (perform before)).exec (p, m) =
            (.ok left₁, (q₁, m)) ∧
          Nested list (q₁.cursor.next.toList ++ q₁.cursor.pending) after left₂ rest := by
  have hprimed : ((p.enter text).push tokens).cursor.Primed := Cursor.primed_push _ _
  have hstream : ((p.enter text).push tokens).cursor.stream = tokens :=
    congrArg Reading.stream (Parser.reading_push_enter text tokens p)
  obtain ⟨left, q, hrun, -, hflow⟩ :=
    exec_perform (ε := ε) moves (s := ((p.enter text).push tokens, m)) hprimed
  rw [hstream] at hflow
  refine ⟨left, q.leave, exec_parse_eq hlex hrun, hflow.perm, hflow.sublist,
    fun list => hflow.pushed_sublist, ?_⟩
  rintro before list after rfl
  obtain ⟨left₁, q₁, hrun₁, -, -⟩ :=
    exec_perform (ε := ε) before (s := ((p.enter text).push tokens, m)) hprimed
  obtain ⟨left₂, q₂, hrun₂, hnested⟩ := exists_nested (ε := ε) list after (q₁, m)
  -- the moves before the list and those from the list on are all the moves
  have hall := hrun.symm.trans (exec_perform_append hrun₁ hrun₂)
  obtain ⟨hleft, hq⟩ := Prod.mk.inj hall
  obtain rfl := Except.ok.inj hleft
  obtain ⟨rfl, -⟩ := Prod.mk.inj hq
  exact ⟨left₁, left₂, q₁.leave, rfl, exec_parse_eq hlex hrun₁, hnested⟩

open Calculator in
/-- Parentheses around a star, pushed behind the first number of a sum: the star is pushed when the
left parenthesis has left, and leaves before the right one, which leaves before the `+`. -/
theorem exec_parse_perform_parentheses :
    let moves : List (Motion Kind) := [.accept .number, .push [.bare .leftParen, .bare .rightParen],
      .expect .leftParen, .push [.bare .star], .accept .number, .advance, .advance, .accept .plus]
    ∃ tokens left q, lexer.lex "1+2" = .ok tokens ∧
      (Grammar.parse id "1+2" (perform moves)).exec (.new lexer, ()) = (.ok left, (q, ())) ∧
      tokens.map Token.kind = [.number, .plus, .number] ∧
      left.map Token.kind = [.number, .leftParen, .star, .rightParen, .plus] ∧
      let rest := q.cursor.next.toList ++ q.cursor.pending
      (left ++ rest).Perm (tokens ++ moves.flatMap pushed) ∧ tokens.Sublist (left ++ rest) := by
  intro moves
  have hlex : (lexer.lex "1+2").toOption.map (·.map Token.kind) =
      some [.number, .plus, .number] := by
    decide +kernel
  have hrun : ((Grammar.parse id "1+2" (perform moves)).exec (.new lexer, ())).1.toOption.map
      (·.map Token.kind) = some [.number, .leftParen, .star, .rightParen, .plus] := by
    decide +kernel
  obtain ⟨tokens, htokens⟩ : ∃ tokens, lexer.lex "1+2" = .ok tokens := by
    cases h : lexer.lex "1+2" with
    | error d => rw [h] at hlex; cases hlex
    | ok tokens => exact ⟨tokens, rfl⟩
  have hnew : (Parser.new lexer).lexer.lex "1+2" = .ok tokens := by
    rw [Parser.lexer_new, htokens]
  obtain ⟨left, q, hparse, hperm, hsublist, -⟩ := exec_parse_perform id hnew () moves
  rw [htokens] at hlex
  rw [hparse] at hrun
  exact ⟨tokens, left, q, htokens, hparse, Option.some.inj hlex, Option.some.inj hrun, hperm,
    hsublist⟩

end Motion

end Descent
