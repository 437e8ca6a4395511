import Descent.Proofs.Calculator.Spans
import Descent.Proofs.Parser.Checked

/-!
# Nothing is broken off

Whatever is done with a parser passes all checks. There is only one way to have everything broken
off, which is to make a token that ends before it starts, and that is left to those who make tokens
(`Token.make_eq_error_iff`). The calculator makes tokens where it replaces names. They have the span
of a token of the text, and so they can be made (`Calculator.exec_parse_ne_unmade`).
-/

namespace Descent

theorem Token.make_eq_error_iff {κ : Type} {kind : κ} {value : String} {start stop : Nat}
    {f : Fault} :
    make kind value start stop = .error f ↔ stop < start ∧ f = .tokenEndsBeforeStart := by
  unfold make
  split
  · rename_i hle
    exact iff_of_false nofun fun h => Nat.not_lt.2 hle h.1
  · rename_i hlt
    constructor
    · intro h
      exact ⟨Nat.lt_of_not_le hlt, (Except.error.inj h).symm⟩
    · rintro ⟨-, rfl⟩
      rfl

namespace Calculator

open Grammar

/-- **The tokens that take the place of a name can be made.** -/
theorem exec_parse_ne_unmade {c : Calculator} {g : Calculation Int}
    (hg : g = c.whole ∨ ∃ n, g = c.sum n) (p : Parser Kind) (m : Nat) (text : String) :
    ((parse .diagnostic text g).exec (p, m)).1 ≠ .error (.fault .tokenEndsBeforeStart) := by
  intro hfault
  cases hlex : p.lexer.lex text with
  | error d =>
    rw [exec_parse_of_error hlex] at hfault
    cases hfault
  | ok tokens =>
    rw [exec_parse_of_ok hlex] at hfault
    obtain ⟨⟨events, -, hwalk⟩, -, hbroken⟩ :=
      tours_of_grammar hg (s := ((p.enter text).push tokens, m)) (Cursor.primed_push _ _)
    obtain ⟨t, hlast, hlt⟩ := hbroken hfault
    -- the name stands where a token of the text stands, which is not empty
    obtain ⟨o, ho, hot⟩ := hwalk.placed.exists_stems_last hlast
    have hnonempty : o.start < o.stop :=
      (Lexer.apart_of_lex hlex).nonempty _ (List.mem_map_of_mem ho)
    rw [hot.start_eq, hot.stop_eq] at hlt
    omega

end Calculator

/-- **Nothing is broken off.** Lexing passes all of its checks, for every lexer and every text:
searches begin at boundaries before the end of the text, pieces are cut out between boundaries, and
the tokens that are made do not end before they start. So do all sessions with a parser, whatever
tokens are pushed and whatever is complained about: the count of the tokens fits, offsets are
brought back to boundaries that are not below zero, and every diagnostic can be shown, as can every
other one that is made with any message, text and offset. A token cannot be made if and only if it
would end before it starts, and this does not happen to the calculator when it replaces names. -/
theorem Session.passes_checks {κ α : Type} [BEq κ] :
    (∀ (l : Lexer κ) (text : String), l.checkedLex text = .ok (l.lex text)) ∧
    (∀ (p₀ : Parser κ) (session : Session κ α), ∃ h p m,
      session.grammar.exec (p₀, .done) = (.ok h, (p, m)) ∧
        session.checkedRun p₀ = .ok (h, p)) ∧
    (∀ (message source : String) (offset : Nat),
      (Diagnostic.checked .lexical message source offset >>= Diagnostic.checkedCaret) =
          .ok (Diagnostic.lexical message source offset).caret ∧
        (Diagnostic.checked .grammatical message source offset >>= Diagnostic.checkedCaret) =
          .ok (Diagnostic.grammatical message source offset).caret) ∧
    (∀ (kind : κ) (value : String) (start stop : Nat) (f : Fault),
      Token.make kind value start stop = .error f ↔
        stop < start ∧ f = .tokenEndsBeforeStart) ∧
    ∀ (c : Calculator) (p : Parser Calculator.Kind) (m : Nat) (text : String),
      ((c.evaluate text).exec (p, m)).1 ≠ .error (.fault .tokenEndsBeforeStart) ∧
        ∀ n, ((Grammar.parse .diagnostic text (c.sum n)).exec (p, m)).1 ≠
          .error (.fault .tokenEndsBeforeStart) := by
  refine ⟨Lexer.checkedLex_eq, fun p₀ session => ?_, fun message source offset => ?_, ?_,
    fun c p m text => ?_⟩
  · exact session.exists_exec_checkedRun p₀ .done
  · have hboundary := Text.clamp_mem_boundaries source.toList offset
    rw [Diagnostic.checked_eq, Diagnostic.checked_eq, Checked.ok_bind, Checked.ok_bind]
    exact ⟨Diagnostic.checkedCaret_eq hboundary, Diagnostic.checkedCaret_eq hboundary⟩
  · exact fun _ _ _ _ _ => Token.make_eq_error_iff
  · exact ⟨Calculator.exec_parse_ne_unmade (.inl rfl) p m text,
      fun n => Calculator.exec_parse_ne_unmade (.inr ⟨n, rfl⟩) p m text⟩

end Descent
