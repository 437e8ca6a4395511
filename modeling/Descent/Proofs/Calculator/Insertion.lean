import Descent.Proofs.Calculator.Layout
import Descent.Proofs.Calculator.Respanning
import Descent.Proofs.Calculator.Spans

/-!
# Layout says nothing to the calculator

If layout is put into a text between two of its words, then the tokens stay what they are, and those
behind the layout are moved. The calculator does not look at where tokens stand. So it has the same
value, or the same fault, or something to complain about in the same words
(`Calculator.EndsAlike`); and a diagnostic points to the token that it pointed to
(`Calculator.layout_conserves`).
-/

namespace Descent

open Text (Stretch)

variable {κ : Type}

/-! ## Displaced tokens -/

/-- The place of a piece of a text, if so many bytes are put into the text at `p`. -/
def Text.Stretch.displaced (p n : Nat) (s : Stretch) : Stretch :=
  if s.start < p then s else ⟨n + s.start, n + s.stop⟩

theorem Text.Stretch.keeps_displaced (p n : Nat) : Stretch.Keeps (Stretch.displaced p n) := by
  intro s
  unfold displaced
  split
  · exact Iff.rfl
  · exact Nat.add_le_add_iff_left

theorem Token.respan_displaced (p n : Nat) :
    Token.respan (κ := κ) (Stretch.displaced p n) = Token.displaced p n := by
  funext t
  unfold respan displaced Stretch.displaced
  have hstart : t.stretch.start = t.start := rfl
  rw [hstart]
  split <;> rfl

namespace Calculator

open Grammar

variable {c : Calculator} {text text' : String} {tokens : List (Token Kind)}

/-! ## Diagnostics of a calculation -/

/-- A complaint points to where the last token begins or ends, and to no other boundary. -/
theorem complain_of_tours {q : Parser Kind} {m : Nat} {r : Except Failure Int × (Parser Kind × Nat)}
    (hlex : q.lexer.lex text = .ok tokens) (htours : Tours c ((q.enter text).push tokens, m) r)
    (complaint : Complaint) :
    r.2.1.cursor.complain complaint = ⟨.grammatical, complaint.message, text,
      (r.2.1.cursor.last.map complaint.offset).getD 0⟩ := by
  obtain ⟨⟨events, -, hwalk⟩, -, -⟩ := htours
  have htext : r.2.1.cursor.text = text := hwalk.text_eq
  rw [Cursor.complain_eq, htext, Diagnostic.grammatical]
  congr 1
  cases hlast : r.2.1.cursor.last with
  | none => exact Text.clamp_of_mem_boundaries (Text.zero_mem_boundaries _)
  | some t =>
    obtain ⟨o, ho, hot⟩ := hwalk.placed.exists_stems_last hlast
    obtain ⟨hstart, hstop⟩ := Lexer.mem_boundaries_of_lex hlex ho
    rw [← hot.start_eq] at hstart
    rw [← hot.stop_eq] at hstop
    cases complaint with
    | unexpected | next => exact Text.clamp_of_mem_boundaries hstop
    | last => exact Text.clamp_of_mem_boundaries hstart

/-! ## How calculations end -/

/-- How a calculation ends on a text, and on the text with `n` more bytes. The token that was
accepted last is `last` in the one and `last'` in the other. -/
inductive EndsAlike (text text' : String) (n : Nat) (last last' : Option (Token Kind)) :
    Except Failure Int → Except Failure Int → Prop where
  /-- they have the same value -/
  | value (v : Int) : EndsAlike text text' n last last' (.ok v) (.ok v)
  /-- they have the same fault -/
  | fault (f : Fault) :
      EndsAlike text text' n last last' (.error (.fault f)) (.error (.fault f))
  /-- there is no end to either -/
  | endless : EndsAlike text text' n last last' (.error .endless) (.error .endless)
  /-- no rule matches, in the longer text so many bytes further on -/
  | lexical (q : Nat) :
      EndsAlike text text' n last last'
        (.error (.diagnostic ⟨.lexical, Diagnostic.invalidCharacter, text, q⟩))
        (.error (.diagnostic ⟨.lexical, Diagnostic.invalidCharacter, text', q + n⟩))
  /-- something is wrong with what was accepted last, or behind it -/
  | grammatical (complaint : Complaint) :
      EndsAlike text text' n last last'
        (.error (.diagnostic ⟨.grammatical, complaint.message, text,
          (last.map complaint.offset).getD 0⟩))
        (.error (.diagnostic ⟨.grammatical, complaint.message, text',
          (last'.map complaint.offset).getD 0⟩))

theorem EndsAlike.eq_ok {n : Nat} {last last' : Option (Token Kind)} {r r' : Except Failure Int}
    {v : Int} (h : EndsAlike text text' n last last' r r') (hr : r = .ok v) : r' = .ok v := by
  cases h with
  | value => exact hr
  | _ => cases hr

/-- If the tokens of one text are those of the other, displaced, then the calculations end alike. -/
theorem endsAlike_of_lex {q q' : Parser Kind} {p n : Nat}
    (hlex : q.lexer.lex text = .ok tokens)
    (hlex' : q'.lexer.lex text' = .ok (tokens.map (Token.displaced p n))) {g : Calculation Int}
    (hg : g = c.whole ∨ ∃ steps, g = c.wholeWithin steps) (m : Nat) :
    let run := (parse .diagnostic text g).exec (q, m)
    let run' := (parse .diagnostic text' g).exec (q', m)
    let last := run.2.1.cursor.last
    run'.2.2 = run.2.2 ∧
      EndsAlike text text' n last (last.map (Token.displaced p n)) run.1 run'.1 := by
  have hrespans : Respans (Stretch.displaced p n) text' Eq g g := by
    obtain rfl | ⟨steps, rfl⟩ := hg
    · exact respans_whole (Stretch.keeps_displaced p n) text' c
    · exact respans_wholeWithin (Stretch.keeps_displaced p n) text' c steps
  have htours : ∀ {s : Parser Kind × Nat}, s.1.cursor.Primed → Tours c s (g.exec s) := by
    obtain rfl | ⟨steps, rfl⟩ := hg
    · exact tours_whole c
    · exact tours_wholeWithin c steps
  have hstart : Matching (Stretch.displaced p n) text' ((q.enter text).push tokens, m)
      ((q'.enter text').push (tokens.map (Token.displaced p n)), m) := by
    refine ⟨?_, rfl⟩
    rw [Parser.cursor_push, Parser.cursor_push, ← Token.respan_displaced, ← Cursor.push_respan]
    rfl
  rw [exec_parse_of_ok hlex, exec_parse_of_ok hlex']
  have halike := hrespans hstart
  have hcomplain := complain_of_tours hlex (htours (Cursor.primed_push _ _)) (m := m)
  have hcomplain' := complain_of_tours hlex' (htours (Cursor.primed_push _ _)) (m := m)
  generalize g.exec ((q.enter text).push tokens, m) = r at halike hcomplain ⊢
  generalize g.exec ((q'.enter text').push _, m) = r' at halike hcomplain' ⊢
  cases halike with
  | @ok v _ _ _ h hv =>
    subst hv
    exact ⟨h.memory, .value v⟩
  | @error e e' s s' h he =>
    refine ⟨h.memory, ?_⟩
    cases he with
    | diagnostic complaint =>
      have hlast : s'.1.cursor.last = s.1.cursor.last.map (Token.displaced p n) := by
        rw [h.cursor, ← Token.respan_displaced]
        rfl
      rw [hcomplain complaint, hcomplain' complaint, hlast]
      exact .grammatical complaint
    | fault f => exact .fault f
    | endless => exact .endless

/-- **Layout never changes a calculation.** Let layout be put into a text where the scan of the text
comes to. If the text has tokens, then it has the same tokens with the layout, and those behind the
layout are moved by as many bytes as it has; if it has none, then it fails where it failed, as many
bytes further on. A calculation replaces as many names as before. It ends with the value that it
ended with, or with the fault, or with a diagnostic in the same words, which points to the beginning
or the end of the token that it pointed to. None of this depends on what the names stand for, or on
how many steps there are. -/
theorem layout_conserves {p : Nat} (hp : lexer.Reaches text p) {insert : String}
    (hinsert : Layout insert.toList) :
    ∃ before after : String, text = before ++ after ∧ before.utf8ByteSize = p ∧
      let text' := before ++ insert ++ after
      let n := insert.utf8ByteSize
      (∀ tokens, lexer.lex text = .ok tokens →
        lexer.lex text' = .ok (tokens.map (Token.displaced p n))) ∧
      (∀ q, lexer.lex text = .error ⟨.lexical, Diagnostic.invalidCharacter, text, q⟩ →
        lexer.lex text' = .error ⟨.lexical, Diagnostic.invalidCharacter, text', q + n⟩) ∧
      ∀ (c : Calculator) (q q' : Parser Kind) (m : Nat) (g : Calculation Int),
        q.lexer = lexer → q'.lexer = lexer → (g = c.whole ∨ ∃ steps, g = c.wholeWithin steps) →
          let run := (parse .diagnostic text g).exec (q, m)
          let run' := (parse .diagnostic text' g).exec (q', m)
          let last := run.2.1.cursor.last
          run'.2.2 = run.2.2 ∧
            EndsAlike text text' n last (last.map (Token.displaced p n)) run.1 run'.1 := by
  obtain ⟨before, after, htext, hbytes, hyield⟩ := exists_yield_insert hp hinsert
  refine ⟨before, after, htext, hbytes, ?_⟩
  intro text' n
  refine ⟨fun tokens => lex_displaced_of_ok hyield, ?_, ?_⟩
  · intro q hlex
    rw [Nat.add_comm q]
    exact lex_displaced_of_error hyield hlex
  · intro c q q' m g hq hq' hg
    cases hlex : lexer.lex text with
    | ok tokens =>
      have hlex' := lex_displaced_of_ok hyield hlex
      rw [← hq] at hlex
      rw [← hq'] at hlex'
      exact endsAlike_of_lex hlex hlex' hg m
    | error d =>
      have hlex' := lex_displaced_of_error hyield hlex
      obtain ⟨o, -, -, rfl⟩ := Lexer.exists_stuck_of_lex_error hlex
      rw [← hq] at hlex
      rw [← hq'] at hlex'
      rw [exec_parse_of_error hlex, exec_parse_of_error hlex']
      refine ⟨rfl, ?_⟩
      dsimp only
      rw [Nat.add_comm]
      exact .lexical o

/-- A comment in the middle of a sum: the value is what it was. -/
theorem layout_conserves_sum :
    lexer.Reaches "1+2" 2 ∧ Layout " # two\n".toList ∧
      ∃ before after : String, "1+2" = before ++ after ∧ before.utf8ByteSize = 2 ∧
        ((parse .diagnostic (before ++ " # two\n" ++ after) empty.whole).exec
          (.new lexer, 0)).1 = .ok 3 := by
  have hreaches : lexer.Reaches "1+2" 2 := by
    have hmem : 2 ∈ (lexer.scan "1+2").segments.map Segment.stop := by decide +kernel
    exact .inr (List.mem_map.1 hmem)
  have hcomment : Layout ('#' :: " two".toList ++ ['\n']) := .comment (by decide) .nil
  have hlayout : Layout " # two\n".toList := .space (by decide +kernel) hcomment
  have hvalue : ((parse .diagnostic "1+2" empty.whole).exec (.new lexer, 0)).1 = .ok 3 := by
    decide +kernel
  obtain ⟨before, after, htext, hbytes, -, -, hends⟩ := layout_conserves hreaches hlayout
  refine ⟨hreaches, hlayout, before, after, htext, hbytes, ?_⟩
  have hnew : (Parser.new lexer).lexer = lexer := Parser.lexer_new lexer
  obtain ⟨-, halike⟩ := hends empty _ _ 0 empty.whole hnew hnew (.inl rfl)
  exact halike.eq_ok hvalue

end Calculator

end Descent
