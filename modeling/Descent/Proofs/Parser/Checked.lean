import Descent.Proofs.Lexer.Checked
import Descent.Proofs.Parser.Diagnostics

/-!
# Sessions pass their checks

A session can be held with checks (`Session.checkedRun`). When tokens are put in front of what is
left, they are counted by a difference of lengths. When a token is accepted, the trace is told of
the token that the cursor holds afterwards. When a diagnostic is made, its offset is brought
back to a boundary one step at a time. When a text is parsed, it is lexed with checks. And whenever
there is a diagnostic, it is shown. All checks are passed, in whatever state the parser is, and the
history and the parser are the same as without them (`Session.exists_exec_checkedRun`).
-/

namespace Descent

variable {κ α : Type}

namespace Parser

/-- Put tokens in front of what is left, one after the other from the last of them on. They are
counted by how much longer the queue is afterwards. -/
def checkedPush (tokens : List (Token κ)) (p : Parser κ) : Checked (Parser κ) := do
  let queue := tokens.reverse.foldl (fun queue t => t :: queue) p.cursor.stream
  let count ← checkedSub queue.length p.cursor.stream.length
  return (p.move { p.cursor with pending := queue }.advance).tell [.pushed count]

/-- The tokens that are counted are those that were given. -/
theorem checkedPush_eq (tokens : List (Token κ)) (p : Parser κ) :
    p.checkedPush tokens = .ok (p.push tokens) := by
  have hqueue : tokens.reverse.foldl (fun queue t => t :: queue) p.cursor.stream =
      tokens ++ p.cursor.stream := by
    rw [List.foldl_reverse, List.foldr_cons_eq_append']
  unfold checkedPush
  dsimp only
  rw [hqueue, List.length_append, checkedSub_add_left]
  rfl

/-- Move the cursor to behind a token that is accepted. The trace is told of the token that the
cursor then holds. -/
def tellAccepted (c : Cursor κ) (p : Parser κ) : Parser κ :=
  (p.move c).tell ((p.move c).cursor.last.toList.map fun t => .accepted t.start t.stop)

/-- The token that the cursor holds is the one that was accepted. -/
theorem tellAccepted_eq [BEq κ] {kind : κ} {t : Token κ} {c : Cursor κ} {p : Parser κ}
    (h : p.cursor.accept? kind = some (t, c)) : p.tellAccepted c = p.accepted [t] c := by
  have hlast : c.last = some t := by
    unfold Cursor.accept? at h
    split at h
    · split at h
      · obtain ⟨rfl, rfl⟩ := Prod.mk.inj (Option.some.inj h)
        rfl
      · cases h
    · cases h
  rw [tellAccepted, cursor_move, hlast]
  rfl

end Parser

namespace Cursor

/-- The diagnostic of a complaint. It is shown, too. -/
def checkedComplain (complaint : Complaint) (c : Cursor κ) : Checked Diagnostic := do
  let d ← Diagnostic.checked .grammatical complaint.message c.text
    ((c.last.map complaint.offset).getD 0)
  let _ ← d.checkedCaret
  return d

/-- The diagnostic of a lookahead that was needed. -/
def checkedMismatch (c : Cursor κ) : Checked Diagnostic :=
  c.checkedComplain (if c.isExhausted then .next Diagnostic.unexpectedEnd else .unexpected)

theorem checkedComplain_eq (complaint : Complaint) (c : Cursor κ) :
    c.checkedComplain complaint = .ok (c.complain complaint) := by
  rw [checkedComplain, Diagnostic.checked_eq, Checked.ok_bind,
    Diagnostic.checkedCaret_eq (Text.clamp_mem_boundaries _ _), Checked.ok_bind, complain_eq]
  rfl

theorem checkedMismatch_eq (c : Cursor κ) : c.checkedMismatch = .ok c.mismatch := by
  rw [checkedMismatch, checkedComplain_eq, mismatch]
  split <;> rfl

end Cursor

namespace Session

variable [BEq κ]

/-- Hold a session with checks. Yields the history and the parser. -/
def checkedRun : Session κ α → Parser κ → Checked (History κ α × Parser κ)
  | done, p => .ok (.done, p)
  | accept kind rest, p =>
    match p.cursor.accept? kind with
    | some (t, c) =>
      (rest.checkedRun (p.tellAccepted c)).map fun (h, q) => (.accept kind (some t) h, q)
    | none => (rest.checkedRun p).map fun (h, q) => (.accept kind none h, q)
  | expect kind rest, p =>
    match p.cursor.accept? kind with
    | some (t, c) =>
      (rest.checkedRun (p.tellAccepted c)).map fun (h, q) => (.expect kind (.ok t) h, q)
    | none => do
      let d ← p.cursor.checkedMismatch
      (rest.checkedRun p).map fun (h, q) => (.expect kind (.error d) h, q)
  | advance rest, p =>
    (rest.checkedRun (p.move p.cursor.advance)).map fun (h, q) => (.advance h, q)
  | push tokens rest, p => do
    let p ← p.checkedPush tokens
    (rest.checkedRun p).map fun (h, q) => (.push tokens h, q)
  | complain complaint rest, p => do
    let d ← p.cursor.checkedComplain complaint
    (rest.checkedRun p).map fun (h, q) => (.complain complaint d h, q)
  | parse text inner result rest, p => do
    match ← p.lexer.checkedLex text with
    | .error d =>
      let _ ← d.checkedCaret
      (rest.checkedRun (p.enter text).leave).map fun (h, q) =>
        (.parse text .done (.error d) h, q)
    | .ok tokens =>
      let p ← (p.enter text).checkedPush tokens
      let (i, p) ← inner.checkedRun p
      (rest.checkedRun p.leave).map fun (h, q) => (.parse text i result h, q)

/-- **A session passes its checks**: with them it has the history, and leaves the parser, that it
has and leaves without them. -/
theorem exists_exec_checkedRun (session : Session κ α) (p : Parser κ) (m : History κ α) :
    ∃ h q m', session.grammar.exec (p, m) = (.ok h, (q, m')) ∧
      session.checkedRun p = .ok (h, q) := by
  induction session generalizing p m with
  | done => exact ⟨.done, p, m, rfl, rfl⟩
  | accept kind rest ih =>
    rcases hc : p.cursor.accept? kind with _ | ⟨t, c⟩
    · obtain ⟨h, q, m', hrun, hchecked⟩ := ih p m
      refine ⟨_, q, m', exec_accept_of_none hc hrun, ?_⟩
      simp only [checkedRun, hc, hchecked, Except.map]
    · obtain ⟨h, q, m', hrun, hchecked⟩ := ih (p.accepted [t] c) m
      refine ⟨_, q, m', exec_accept_of_some hc hrun, ?_⟩
      simp only [checkedRun, hc, Parser.tellAccepted_eq hc, hchecked, Except.map]
  | expect kind rest ih =>
    rcases hc : p.cursor.accept? kind with _ | ⟨t, c⟩
    · obtain ⟨h, q, m', hrun, hchecked⟩ := ih p m
      refine ⟨_, q, m', exec_expect_of_none hc hrun, ?_⟩
      simp only [checkedRun, hc, Cursor.checkedMismatch_eq, Checked.ok_bind, hchecked, Except.map]
    · obtain ⟨h, q, m', hrun, hchecked⟩ := ih (p.accepted [t] c) m
      refine ⟨_, q, m', exec_expect_of_some hc hrun, ?_⟩
      simp only [checkedRun, hc, Parser.tellAccepted_eq hc, hchecked, Except.map]
  | advance rest ih =>
    obtain ⟨h, q, m', hrun, hchecked⟩ := ih (p.move p.cursor.advance) m
    refine ⟨_, q, m', Grammar.exec_return hrun History.advance, ?_⟩
    simp only [checkedRun, hchecked, Except.map]
  | push tokens rest ih =>
    obtain ⟨h, q, m', hrun, hchecked⟩ := ih (p.push tokens) m
    refine ⟨_, q, m', Grammar.exec_return hrun (History.push tokens), ?_⟩
    simp only [checkedRun, Parser.checkedPush_eq, Checked.ok_bind, hchecked, Except.map]
  | complain complaint rest ih =>
    obtain ⟨h, q, m', hrun, hchecked⟩ := ih p m
    refine ⟨_, q, m', Grammar.exec_return hrun (History.complain complaint _), ?_⟩
    simp only [checkedRun, Cursor.checkedComplain_eq, Checked.ok_bind, hchecked, Except.map]
  | parse text inner result rest ihinner ihrest =>
    cases hlex : p.lexer.lex text with
    | error d =>
      obtain ⟨h, q, m', hrun, hchecked⟩ := ihrest (p.enter text).leave .done
      refine ⟨_, q, m', exec_parse_of_error hlex inner result hrun, ?_⟩
      simp only [checkedRun, Lexer.checkedLex_eq, hlex, Checked.ok_bind,
        Lexer.checkedCaret_of_lex_error hlex, hchecked, Except.map]
    | ok tokens =>
      obtain ⟨i, p', m₁, hinner, hcheckedInner⟩ := ihinner ((p.enter text).push tokens) .done
      obtain ⟨h, q, m', hrun, hchecked⟩ := ihrest p'.leave i
      refine ⟨_, q, m', exec_parse_of_ok result hlex hinner hrun, ?_⟩
      simp only [checkedRun, Lexer.checkedLex_eq, hlex, Checked.ok_bind, Parser.checkedPush_eq,
        hcheckedInner, hchecked, Except.map]

end Session

end Descent
