import Descent.Proofs.Parser.Run

/-!
# Deciding by the lookahead

A parser stands in front of some tokens (`Parser.At`) if its cursor is primed and they are what is
left. There, whether a kind is accepted depends on the first of the tokens alone
(`Grammar.exec_accept?_of_at`, `Grammar.exec_accept?_of_ne`), and the parser that has accepted it
(`Parser.take`) stands in front of the others.

Often it does not matter why a grammar fails. What it yields if it does not (`Grammar.yield?`) is
an option, and one grammar after another is one option after another.
-/

namespace Descent

variable {κ σ ε α β : Type}

/-- The kind of the first of some tokens. -/
def aheadOf? (stream : List (Token κ)) : Option κ := stream.head?.map Token.kind

/-- There is a kind ahead if and only if there is a first token, and it is of the kind. -/
theorem aheadOf?_eq_some_iff {stream : List (Token κ)} {kind : κ} :
    aheadOf? stream = some kind ↔ ∃ t rest, stream = t :: rest ∧ t.kind = kind := by
  cases stream <;> simp [aheadOf?]

namespace Parser

/-- The parser that has accepted its lookahead. -/
def take (t : Token κ) (p : Parser κ) : Parser κ :=
  p.accepted [t] { p.cursor with last := some t }.advance

/-- The parser stands in front of the tokens. -/
structure At (p : Parser κ) (stream : List (Token κ)) : Prop where
  primed : p.cursor.Primed
  stream_eq : p.cursor.stream = stream

variable {p : Parser κ} {t : Token κ} {stream rest : List (Token κ)}

/-- A parser in front of some tokens sees the first of them. -/
theorem At.next_eq (h : p.At stream) : p.cursor.next = stream.head? := by
  rw [h.primed.next_eq, h.stream_eq]

/-- If a kind is ahead of a primed cursor, then the parser is in front of a token of that kind. -/
theorem At.of_aheadOf? {kind : κ} (h : p.cursor.Primed)
    (hkind : aheadOf? p.cursor.stream = some kind) :
    ∃ t rest, p.At (t :: rest) ∧ t.kind = kind := by
  obtain ⟨t, rest, hstream, ht⟩ := aheadOf?_eq_some_iff.1 hkind
  exact ⟨t, rest, ⟨h, hstream⟩, ht⟩

/-- Of the reading of a parser in front of some tokens, only the text and the last token remain to
be told. -/
theorem At.reading_eq (h : p.At stream) :
    p.cursor.reading = ⟨p.cursor.text, p.cursor.last, stream⟩ := by
  rw [Cursor.reading, h.stream_eq]

/-- The cursor is exhausted if and only if the parser is in front of no tokens. -/
theorem At.isExhausted_iff (h : p.At stream) : p.cursor.isExhausted = true ↔ stream = [] := by
  rw [Cursor.isExhausted, Option.isNone_iff_eq_none, h.next_eq, List.head?_eq_none_iff]

/-- A parser that has accepted its lookahead stands in front of what was behind it. -/
theorem At.take (h : p.At (t :: rest)) : (p.take t).At rest := by
  refine ⟨Cursor.primed_advance _, ?_⟩
  have hpending := h.primed.pending_eq
  rw [h.stream_eq, List.tail_cons] at hpending
  rw [Parser.take, cursor_accepted, Cursor.stream_advance, hpending]

/-- Behind a token that was taken, it is the last one, and the others are left. -/
theorem At.reading_take (h : p.At (t :: rest)) :
    (p.take t).cursor.reading = ⟨p.cursor.text, some t, rest⟩ := by
  rw [h.take.reading_eq]
  rfl

/-- Tokens that are pushed come in front of those that the parser is in front of. -/
theorem At.push (h : p.At stream) (tokens : List (Token κ)) :
    (p.push tokens).At (tokens ++ stream) := by
  refine ⟨Cursor.primed_push _ _, ?_⟩
  rw [cursor_push, Cursor.stream_push, h.stream_eq]

/-- A parser whose cursor is made from a reading is in front of the list of the reading. -/
theorem at_move_cursor (p : Parser κ) (r : Reading κ) : (p.move r.cursor).At r.stream :=
  ⟨r.primed_cursor, r.stream_cursor⟩

end Parser

namespace Grammar

/-! ## Accepting what is ahead -/

section Accept

variable [BEq κ] [LawfulBEq κ] {s : Parser κ × σ} {t : Token κ} {stream rest : List (Token κ)}
  {kind : κ}

/-- The first token is accepted as what it is, and the cursor is moved behind it. -/
theorem accept?_of_at (h : s.1.At (t :: rest)) (hkind : t.kind = kind) :
    s.1.cursor.accept? kind = some (t, { s.1.cursor with last := some t }.advance) := by
  have hnext : s.1.cursor.next = some t := h.next_eq
  rw [Cursor.accept?, hnext]
  exact if_pos (beq_iff_eq.2 hkind)

/-- Nothing is accepted as a kind that is not ahead. -/
theorem accept?_of_ne (h : s.1.At stream) (hkind : aheadOf? stream ≠ some kind) :
    s.1.cursor.accept? kind = none := by
  have hnext := h.next_eq
  unfold Cursor.accept?
  split
  · rename_i t ht
    refine if_neg fun hk => hkind ?_
    rw [aheadOf?, ← hnext, ht, Option.map_some, beq_iff_eq.1 hk]
  · rfl

/-- To accept the kind that is ahead is to take the first token. -/
theorem exec_accept?_of_at (h : s.1.At (t :: rest)) (hkind : t.kind = kind) :
    (accept? kind : Grammar κ σ ε (Option (Token κ))).exec s =
      (.ok (some t), (s.1.take t, s.2)) := by
  rw [exec_accept?, accept?_of_at h hkind]
  rfl

/-- To accept a kind that is not ahead changes nothing. -/
theorem exec_accept?_of_ne (h : s.1.At stream) (hkind : aheadOf? stream ≠ some kind) :
    (accept? kind : Grammar κ σ ε (Option (Token κ))).exec s = (.ok none, s) := by
  rw [exec_accept?, accept?_of_ne h hkind]

/-- To expect the kind that is ahead is to take the first token. -/
theorem exec_expect_of_at (h : s.1.At (t :: rest)) (hkind : t.kind = kind) :
    (expect kind : Grammar κ σ ε (Except Diagnostic (Token κ))).exec s =
      (.ok (.ok t), (s.1.take t, s.2)) := by
  rw [exec_expect, accept?_of_at h hkind]
  rfl

/-- To expect a kind that is not ahead yields a diagnostic and changes nothing. -/
theorem exec_expect_of_ne (h : s.1.At stream) (hkind : aheadOf? stream ≠ some kind) :
    (expect kind : Grammar κ σ ε (Except Diagnostic (Token κ))).exec s =
      (.ok (.error s.1.cursor.mismatch), s) := by
  rw [exec_expect, accept?_of_ne h hkind]

end Accept

/-! ## What a grammar yields -/

/-- What a grammar yields, and the state afterwards, if it does not fail. -/
def yield? (g : Grammar κ σ ε α) (s : Parser κ × σ) : Option (α × (Parser κ × σ)) :=
  match g.exec s with
  | (.ok a, s') => some (a, s')
  | (.error _, _) => none

/-- A grammar yields what its run ends with, if it does not fail. -/
theorem yield?_eq_some_iff {g : Grammar κ σ ε α} {s s' : Parser κ × σ} {a : α} :
    g.yield? s = some (a, s') ↔ g.exec s = (.ok a, s') := by
  unfold yield?
  split <;> simp_all

/-- What a grammar yields depends only on what it does. -/
theorem yield?_congr {g h : Grammar κ σ ε α} {s s' : Parser κ × σ} (heq : g.exec s = h.exec s') :
    g.yield? s = h.yield? s' := by
  rw [yield?, heq, yield?]

@[simp] theorem yield?_cursor (s : Parser κ × σ) :
    (cursor : Grammar κ σ ε (Cursor κ)).yield? s = some (s.1.cursor, s) := rfl

/-- Two grammars, one after the other, yield something if the first does and then the second. -/
@[simp] theorem yield?_bind (g : Grammar κ σ ε α) (f : α → Grammar κ σ ε β) (s : Parser κ × σ) :
    (g >>= f).yield? s = (g.yield? s).bind fun r => (f r.1).yield? r.2 := by
  rw [yield?, yield?, exec_bind]
  rcases g.exec s with ⟨a | e, s'⟩ <;> rfl

end Grammar

end Descent
