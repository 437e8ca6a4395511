import Descent.Proofs.Parser.Refinement

/-!
# Parses do not know of each other

Two runs of a grammar are compared. Two states look alike (`Grammar.Alike`) if their parsers have
the same lexer and the same cursor, and if what is kept in mind is related; their traces may differ.
A grammar is uniform (`Grammar.Uniform`) if from states that look alike it comes to one and the same
result, and to states that look alike again. Everything that a grammar is built from is uniform, and
so is every program that uses a parser (`Program.blind_grammar`).

A parse does not even need states that look alike. It moves the cursor itself, so it is enough that
the lexers are the same (`Grammar.Uniform.exec_parse`): whatever has happened to a parser before,
nothing of it is left.
-/

namespace Descent

variable {κ σ ε α β : Type}

namespace Grammar

/-- Two states look alike, but for their traces: the parsers have the lexer `l` and one cursor, and
what is kept in mind is related by `R`. -/
structure Alike (l : Lexer κ) (R : σ → σ → Prop) (s s' : Parser κ × σ) : Prop where
  left : s.1.lexer = l
  right : s'.1.lexer = l
  cursor : s.1.cursor = s'.1.cursor
  memory : R s.2 s'.2

/-- Two runs come to the same result, and to states that look alike. -/
structure Agreeing (l : Lexer κ) (R : σ → σ → Prop) (r r' : Except ε α × (Parser κ × σ)) :
    Prop where
  result : r.1 = r'.1
  alike : Alike l R r.2 r'.2

/-- From states that look alike, the runs of the grammar agree. The lexer stays what it is. -/
def Uniform (R : σ → σ → Prop) (g : Grammar κ σ ε α) : Prop :=
  ∀ ⦃l : Lexer κ⦄ ⦃s s' : Parser κ × σ⦄, Alike l R s s' → Agreeing l R (g.exec s) (g.exec s')

namespace Uniform

variable {R : σ → σ → Prop}

/-! ## What grammars are built from -/

theorem pure (a : α) : (pure a : Grammar κ σ ε α).Uniform R := fun _ _ _ h => ⟨rfl, h⟩

theorem throw (e : ε) : (throw e : Grammar κ σ ε α).Uniform R := fun _ _ _ h => ⟨rfl, h⟩

theorem cursor : (Grammar.cursor : Grammar κ σ ε (Cursor κ)).Uniform R :=
  fun _ _ _ h => ⟨congrArg Except.ok h.cursor, h⟩

/-- The second grammar goes on from one and the same result. -/
theorem bind {g : Grammar κ σ ε α} {f : α → Grammar κ σ ε β} (hg : g.Uniform R)
    (hf : ∀ a, (f a).Uniform R) : (g >>= f).Uniform R := by
  intro l s s' h
  obtain ⟨hresult, halike⟩ := hg h
  rw [exec_bind, exec_bind]
  generalize g.exec s = r at hresult halike ⊢
  generalize g.exec s' = r' at hresult halike ⊢
  obtain ⟨result, t⟩ := r
  obtain ⟨result', t'⟩ := r'
  obtain rfl : result = result' := hresult
  cases result with
  | ok a => exact hf a halike
  | error e => exact ⟨rfl, halike⟩

theorem ite {p : Prop} [Decidable p] {g h : Grammar κ σ ε α} (hg : g.Uniform R)
    (hh : h.Uniform R) : (if p then g else h).Uniform R := by
  split
  · exact hg
  · exact hh

theorem modifyMemory {f : σ → σ} (hf : ∀ m m', R m m' → R (f m) (f m')) :
    (Grammar.modifyMemory f : Grammar κ σ ε Unit).Uniform R :=
  fun _ _ _ h => ⟨rfl, h.left, h.right, h.cursor, hf _ _ h.memory⟩

theorem advance : (Grammar.advance : Grammar κ σ ε Unit).Uniform R :=
  fun _ _ _ h => ⟨rfl, h.left, h.right, congrArg Cursor.advance h.cursor, h.memory⟩

theorem push (tokens : List (Token κ)) :
    (Grammar.push tokens : Grammar κ σ ε Unit).Uniform R :=
  fun _ _ _ h => ⟨rfl, h.left, h.right, congrArg (Cursor.push tokens) h.cursor, h.memory⟩

theorem accepted (tokens : List (Token κ)) (c : Cursor κ) :
    (modifyParser (.accepted tokens c) : Grammar κ σ ε Unit).Uniform R :=
  fun _ _ _ h => ⟨rfl, h.left, h.right, rfl, h.memory⟩

theorem accept? [BEq κ] (kind : κ) :
    (Grammar.accept? kind : Grammar κ σ ε (Option (Token κ))).Uniform R := by
  refine cursor.bind fun c => ?_
  rcases c.accept? kind with _ | ⟨t, d⟩
  · exact pure none
  · exact (accepted [t] d).bind fun _ => pure (some t)

theorem expect [BEq κ] (kind : κ) :
    (Grammar.expect kind : Grammar κ σ ε (Except Diagnostic (Token κ))).Uniform R := by
  refine cursor.bind fun c => ?_
  rcases c.expect kind with d | ⟨t, d⟩
  · exact pure (Except.error d)
  · exact (accepted [t] d).bind fun _ => pure (Except.ok t)

theorem outcome {g : Grammar κ σ ε α} (hg : g.Uniform R) : (Grammar.outcome g).Uniform R :=
  fun _ _ _ h => ⟨congrArg Except.ok (hg h).result, (hg h).alike⟩

theorem resume (result : Except ε α) :
    (Grammar.resume result : Grammar κ σ ε α).Uniform R := by
  cases result with
  | ok a => exact pure a
  | error e => exact throw e

/-- To ask what is kept in mind is to ask the same in both runs. -/
theorem remember {f : σ → Grammar κ σ ε β} (hf : ∀ m, (f m).Uniform Eq) :
    ((get : Grammar κ σ ε (Parser κ × σ)) >>= fun s => f s.2).Uniform Eq := by
  intro l s s' h
  rw [exec_bind, exec_bind, exec_get, exec_get, andThen_ok, andThen_ok, h.memory]
  exact hf s'.2 h

/-! ## Parses -/

/-- **Parses are isolated.** Only the lexers have to be the same, and what is kept in mind: wherever
the cursors are, the parses agree. -/
theorem exec_parse {g : Grammar κ σ ε α} (hg : g.Uniform R) (fromDiagnostic : Diagnostic → ε)
    (text : String) {l : Lexer κ} {s s' : Parser κ × σ} (hs : s.1.lexer = l)
    (hs' : s'.1.lexer = l) (hmemory : R s.2 s'.2) :
    Agreeing l R ((parse fromDiagnostic text g).exec s)
      ((parse fromDiagnostic text g).exec s') := by
  cases hlex : l.lex text with
  | error d =>
    rw [exec_parse_of_error (hs ▸ hlex), exec_parse_of_error (hs' ▸ hlex)]
    exact ⟨rfl, hs, hs', rfl, hmemory⟩
  | ok tokens =>
    rw [exec_parse_of_ok (hs ▸ hlex), exec_parse_of_ok (hs' ▸ hlex)]
    -- from here on both cursors stand in front of the tokens, wherever they have been
    have hstart : Alike l R ((s.1.enter text).push tokens, s.2)
        ((s'.1.enter text).push tokens, s'.2) := ⟨hs, hs', rfl, hmemory⟩
    obtain ⟨hresult, halike⟩ := hg hstart
    exact ⟨hresult, halike.left, halike.right, halike.cursor, halike.memory⟩

theorem parse {g : Grammar κ σ ε α} (hg : g.Uniform R) (fromDiagnostic : Diagnostic → ε)
    (text : String) : (Grammar.parse fromDiagnostic text g).Uniform R :=
  fun _ _ _ h => hg.exec_parse fromDiagnostic text h.left h.right h.memory

end Uniform

end Grammar

end Descent
