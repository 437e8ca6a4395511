import Descent.Proofs.Parser.Session
import Descent.Proofs.Text.Boundary

/-!
# Diagnostics point into the text

A diagnostic of a parser is about the text that is being parsed, and its offset comes from the token
that was accepted last. That token may have been put into the stream with a span that has nothing to
do with the text; so the offset is brought back to the greatest boundary that it does not stand
before (`Cursor.complain_inside`). Which text and which token this is can be read off what was done
with the parser (`History.subject`).

Diagnostics are only made and never remembered. So what was asked in vain, and what was complained
about, can be left out of a history (`History.effective`), and all the rest happens as before
(`Happens.effective`).
-/

namespace Descent

variable {κ α : Type}

namespace Complaint

/-- What is wrong. -/
def message : Complaint → String
  | unexpected => Diagnostic.unexpectedToken
  | next message => message
  | last message => message

/-- The offset that a complaint is about, if the token was accepted last. -/
def offset : Complaint → Token κ → Nat
  | unexpected, t => t.stop
  | next _, t => t.stop
  | last _, t => t.start

end Complaint

namespace History

/-- The text that a parse was begun of last, and the token that was accepted last since then; at
first they are what is given. -/
def subject : History κ α → String × Option (Token κ) → String × Option (Token κ)
  | done, given => given
  | accept _ none rest, given => rest.subject given
  | accept _ (some t) rest, (text, _) => rest.subject (text, some t)
  | expect _ (.error _) rest, given => rest.subject given
  | expect _ (.ok t) rest, (text, _) => rest.subject (text, some t)
  | advance rest, given => rest.subject given
  | push _ rest, given => rest.subject given
  | complain _ _ rest, given => rest.subject given
  | parse text inner _ rest, _ => rest.subject (inner.subject (text, none))

/-- The history without the steps that had no effect: nothing was accepted, or a diagnostic was
made. -/
def effective : History κ α → History κ α
  | done => done
  | accept _ none rest => rest.effective
  | accept kind (some t) rest => accept kind (some t) rest.effective
  | expect _ (.error _) rest => rest.effective
  | expect kind (.ok t) rest => expect kind (.ok t) rest.effective
  | advance rest => advance rest.effective
  | push tokens rest => push tokens rest.effective
  | complain _ _ rest => rest.effective
  | parse text inner answer rest => parse text inner.effective answer rest.effective

end History

/-! ## At a cursor -/

namespace Cursor

variable {c : Cursor κ}

theorem complain_eq (c : Cursor κ) (complaint : Complaint) :
    c.complain complaint =
      .grammatical complaint.message c.text ((c.last.map complaint.offset).getD 0) := by
  cases complaint <;> rfl

/-- **A diagnostic points into the text of its cursor**: to the greatest boundary that is not behind
what it is about, or to the beginning if nothing has been accepted. -/
theorem complain_inside (c : Cursor κ) (complaint : Complaint) :
    ∃ offset, c.complain complaint = ⟨.grammatical, complaint.message, c.text, offset⟩ ∧
      (c.last = none → offset = 0) ∧
      ∀ t, c.last = some t →
        IsGreatest {b | b ∈ Text.boundaries c.text.toList ∧ b ≤ complaint.offset t} offset := by
  refine ⟨_, complain_eq c complaint, fun hlast => ?_, fun t hlast => ?_⟩
  · rw [hlast]
    exact Text.clamp_of_mem_boundaries (Text.zero_mem_boundaries _)
  · rw [hlast]
    exact Text.isGreatest_clamp _ _

theorem accept?_eq_none_iff [BEq κ] {kind : κ} :
    c.accept? kind = none ↔ ∀ t, c.next = some t → t.isA kind = false := by
  unfold accept?
  cases c.next with
  | none => simp
  | some t => simp

/-- If nothing is left then more was needed; otherwise the lookahead is of no use. -/
theorem Primed.mismatch_cases (h : c.Primed) :
    c.stream = [] ∧ c.mismatch = c.nextError Diagnostic.unexpectedEnd ∨
      c.stream ≠ [] ∧ c.mismatch = c.nextError Diagnostic.unexpectedToken := by
  by_cases hstream : c.stream = []
  · have hnext := h.next_eq_none_iff.2 hstream
    exact .inl ⟨hstream, if_pos (Option.isNone_iff_eq_none.2 hnext)⟩
  · have hnext := mt h.next_eq_none_iff.1 hstream
    exact .inr ⟨hstream, if_neg (mt Option.isNone_iff_eq_none.1 hnext)⟩

/-- The diagnostic of what was expected says which of the two it is. -/
theorem Primed.mismatch_spec (h : c.Primed) :
    c.mismatch = c.nextError c.mismatch.message ∧
      (c.mismatch.message = Diagnostic.unexpectedEnd ↔ c.stream = []) ∧
      (c.mismatch.message = Diagnostic.unexpectedToken ↔ c.stream ≠ []) := by
  have hne : Diagnostic.unexpectedEnd ≠ Diagnostic.unexpectedToken := by decide
  obtain ⟨hstream, heq⟩ | ⟨hstream, heq⟩ := h.mismatch_cases
  · rw [heq]
    exact ⟨rfl, iff_of_true rfl hstream, iff_of_false hne (not_not_intro hstream)⟩
  · rw [heq]
    exact ⟨rfl, iff_of_false hne.symm hstream, iff_of_true rfl hstream⟩

end Cursor

/-! ## On a run -/

namespace Happens

variable [BEq κ] {p q : Parser κ} {h : History κ α}

/-- The text and the last token are the ones that the history tells. -/
theorem subject_eq (hh : Happens p h q) :
    (q.cursor.text, q.cursor.last) = h.subject (p.cursor.text, p.cursor.last) := by
  induction hh with
  | done => rfl
  | accept hc _ ih | expect hc _ ih =>
    obtain ⟨-, -, hlast, htext⟩ := Cursor.accept?_eq_some hc
    rw [Parser.cursor_accepted, hlast, htext] at ih
    exact ih
  | refuse _ _ ih | mismatch _ _ ih => exact ih
  | advance _ ih | push _ ih | complain _ ih => exact ih
  | unlexed _ _ ih => exact ih
  | parse _ _ _ ihinner ihrest =>
    rw [Parser.cursor_leave, ihinner] at ihrest
    exact ihrest

/-- **What has no effect can be left out**: the rest of the history happens as before. -/
theorem effective (hh : Happens p h q) : Happens p h.effective q := by
  induction hh with
  | done p => exact .done p
  | accept hc _ ih => exact .accept hc ih
  | refuse _ _ ih => exact ih
  | expect hc _ ih => exact .expect hc ih
  | mismatch _ _ ih => exact ih
  | advance _ ih => exact .advance ih
  | push _ ih => exact .push ih
  | complain _ ih => exact ih
  | unlexed hlex _ ih => exact .unlexed hlex ih
  | parse hlex _ _ ihinner ihrest => exact .parse hlex ihinner ihrest

end Happens

/-- **Diagnostics point into the current text.** Whatever is done with a parser, from any state that
it can be in, be it new or in the middle of a parse, complaints are then about the text that a parse
was begun of last. They point to the greatest boundary of that text that is not behind the end, or
the beginning, of the token that was accepted last since then, and to the beginning of the text if
there is none. What is expected fails if and only if the lookahead is not there or is of another
kind, and the diagnostic says which of the two it is. To ask in vain changes nothing. So if all
steps without an effect are left out, the others have the answers that they had, and the parser ends
up the same. -/
theorem Session.diagnostics_inside [BEq κ] {p₀ : Parser κ} (hp₀ : p₀.lexer.Reachable p₀.cursor)
    (session : Session κ α) :
    ∃ h p m, session.grammar.exec (p₀, .done) = (.ok h, (p, m)) ∧
      p₀.lexer.Reachable p.cursor ∧
      (p.cursor.text, p.cursor.last) = h.subject (p₀.cursor.text, p₀.cursor.last) ∧
      (∀ complaint : Complaint, ∃ offset,
        p.cursor.complain complaint =
            ⟨.grammatical, complaint.message, p.cursor.text, offset⟩ ∧
          (p.cursor.last = none → offset = 0) ∧
          ∀ t, p.cursor.last = some t →
            IsGreatest {b | b ∈ Text.boundaries p.cursor.text.toList ∧ b ≤ complaint.offset t}
              offset) ∧
      (∀ kind : κ,
        let run := (Grammar.accept? kind : Grammar κ (History κ α) Diagnostic _).exec (p, m)
        run.1 = .ok none → run.2 = (p, m)) ∧
      (∀ kind : κ,
        let run := (Grammar.expect kind : Grammar κ (History κ α) Diagnostic _).exec (p, m)
        ((∃ d, run.1 = .ok (.error d)) ↔ ∀ t, p.cursor.next = some t → t.isA kind = false) ∧
          ∀ d, run.1 = .ok (.error d) →
            run.2 = (p, m) ∧ d = p.cursor.complain (.next d.message) ∧
              (d.message = "Unexpected end of file" ↔ p.cursor.stream = []) ∧
              (d.message = "Unexpected token" ↔ p.cursor.stream ≠ [])) ∧
      ∃ m', h.effective.session.grammar.exec (p₀, .done) = (.ok h.effective, (p, m')) := by
  obtain ⟨h, p, m, hrun, hh⟩ := session.exists_happens p₀ .done
  have hreachable := hh.reachable hp₀
  have hprimed : p.cursor.Primed := hreachable.primed
  refine ⟨h, p, m, hrun, hreachable, hh.subject_eq, p.cursor.complain_inside, ?_, ?_,
    hh.effective.exec_session .done⟩
  · intro kind run hnone
    simp only [run, Grammar.exec_accept?] at hnone ⊢
    split at hnone <;> simp_all
  · intro kind run
    simp only [run, Grammar.exec_expect, ← Cursor.accept?_eq_none_iff]
    rcases p.cursor.accept? kind with _ | ⟨t, c⟩
    · refine ⟨iff_of_true ⟨_, rfl⟩ rfl, ?_⟩
      rintro d hd
      obtain rfl := Except.error.inj (Except.ok.inj hd)
      exact ⟨rfl, hprimed.mismatch_spec⟩
    · exact ⟨iff_of_false nofun nofun, nofun⟩

/-- A token that ends in the middle of a character: the diagnostic points to where the character
begins. -/
theorem Session.diagnostics_inside_of_foreign :
    let l : Lexer Bool := ⟨[]⟩
    let p₀ := ((Parser.new l).enter "é").leave
    let t : Token Bool := ⟨true, "x", 0, 1⟩
    let session : Session Bool Unit := .push [t] (.accept true .done)
    p₀.lexer.Reachable p₀.cursor ∧ ∃ h p m,
      session.grammar.exec (p₀, .done) = (.ok h, (p, m)) ∧ p.cursor.last = some t ∧
        ∃ offset, p.cursor.complain .unexpected = ⟨.grammatical, "Unexpected token", "é", offset⟩ ∧
          IsGreatest {b | b ∈ Text.boundaries "é".toList ∧ b ≤ 1} offset := by
  intro l p₀ t session
  have hlex : l.lex "é" = .error ⟨.lexical, Diagnostic.invalidCharacter, "é", 0⟩ := by
    rw [Lexer.lex, Lexer.scan, Lexer.scanFrom]
    rfl
  have hp₀ : p₀.lexer.Reachable p₀.cursor := .refused hlex
  obtain ⟨h, p, m, hrun, -, -, hinside, -⟩ := diagnostics_inside hp₀ session
  have hfinal : session.grammar.exec (p₀, .done) =
      (.ok (.push [t] (.accept true (some t) .done)), ((p₀.push [t]).accepted [t]
        ⟨"é", some t, none, []⟩, .done)) := rfl
  obtain ⟨-, hstate⟩ := Prod.mk.inj (hrun.symm.trans hfinal)
  obtain ⟨rfl, -⟩ := Prod.mk.inj hstate
  obtain ⟨offset, heq, -, hgreatest⟩ := hinside .unexpected
  exact ⟨hp₀, h, _, m, hrun, rfl, offset, heq, hgreatest t rfl⟩

end Descent
