import Descent.Proofs.Calculator.Walk
import Descent.Proofs.Lexer.Stretches
import Descent.Proofs.Parser.Diagnostics

/-!
# Spans survive the replacement of names

The tokens that take the place of a name have its span. So wherever the cursor comes in a
calculation, each token that it holds stems from a token of the text (`Calculator.Stems`) and stands
where that one stands. What takes the place of a name is put in front of what has not been reached
yet; therefore all tokens in the cursor that are not waiting as they were lexed stem from one token,
the last one that was reached (`Calculator.Placed`), and the spans are in order.

A diagnostic is made where the cursor has come to. So it points to where a token of the text begins
or ends, and if it is about a name then to the name that was written
(`Calculator.parse_spans`).
-/

namespace Descent

/-- The first token stands where the second stands, or before it. -/
def Token.NotBehind {κ : Type} (t u : Token κ) : Prop := t.start ≤ u.start ∧ t.stop ≤ u.stop

namespace Calculator

open Grammar
open Text (Apart)

variable {c : Calculator} {o t u : Token Kind} {tokens : List (Token Kind)} {x y : Cursor Kind}

/-! ## Where tokens stem from -/

/-- The token stems from a token `o`: it is that token, or it took the place of a name that stems
from it. -/
inductive Stems (c : Calculator) (o : Token Kind) : Token Kind → Prop where
  /-- the token itself -/
  | self : Stems c o o
  /-- among what a name was replaced by -/
  | replace {t u : Token Kind} {us : List (Token Kind)} (h : Stems c o t) (hkind : t.kind = .ident)
      (hus : c.replacement? t = some us) (hu : u ∈ us) : Stems c o u

/-- What a name is replaced by stands where the name stands. -/
theorem stretch_of_mem_replacement? {us : List (Token Kind)} (hus : c.replacement? t = some us)
    (hu : u ∈ us) : u.stretch = t.stretch := by
  obtain ⟨expansion, -, rfl⟩ := Option.map_eq_some_iff.1 hus
  obtain ⟨_, -, rfl⟩ := List.mem_map.1 hu
  rfl

namespace Stems

/-- **A token stands where the token stands that it stems from**, through any number of names. -/
theorem stretch_eq (h : Stems c o t) : t.stretch = o.stretch := by
  induction h with
  | self => rfl
  | replace _ _ hus hu ih => exact (stretch_of_mem_replacement? hus hu).trans ih

theorem start_eq (h : Stems c o t) : t.start = o.start := congrArg Text.Stretch.start h.stretch_eq

theorem stop_eq (h : Stems c o t) : t.stop = o.stop := congrArg Text.Stretch.stop h.stretch_eq

/-- Only of a name does another token stem, or a name. -/
theorem eq_or_kind_eq (h : Stems c o t) : t = o ∨ o.kind = .ident := by
  induction h with
  | self => exact .inl rfl
  | replace _ hkind _ _ ih =>
    obtain rfl | ho := ih
    · exact .inr hkind
    · exact .inr ho

theorem kind_eq (h : Stems c o t) (ht : t.kind = .ident) : o.kind = .ident := by
  obtain rfl | ho := h.eq_or_kind_eq
  · exact ht
  · exact ho

end Stems

/-! ## The cursor among the tokens of a text -/

/-- The cursor is among the tokens of a text. Some of them have been reached, and the others wait as
they were lexed. All else that it holds stems from the last of those that have been reached. -/
def Placed (c : Calculator) (tokens : List (Token Kind)) (x : Cursor Kind) : Prop :=
  ∃ reached front waiting, tokens = reached ++ waiting ∧ x.stream = front ++ waiting ∧
    ∀ t ∈ x.last.toList ++ front, ∃ o, reached.getLast? = some o ∧ Stems c o t

namespace Placed

theorem start (c : Calculator) (text : String) (tokens : List (Token Kind)) :
    Placed c tokens ((Cursor.start text).push tokens) := by
  refine ⟨[], [], tokens, rfl, ?_, nofun⟩
  rw [Cursor.stream_push, Cursor.stream_start, List.append_nil, List.nil_append]

/-- Wherever the cursor is moved, it stays among the tokens. -/
theorem move {e : Event} (h : Moves c x e y) (hx : Placed c tokens x) : Placed c tokens y := by
  obtain ⟨reached, front, waiting, htokens, hstream, hstems⟩ := hx
  cases h with
  | accept h =>
    obtain ⟨hcons, -, hlast, -⟩ := Cursor.accept?_eq_some h
    rw [hcons] at hstream
    cases front with
    | nil =>
      -- a token is reached that was waiting
      rename_i t
      refine ⟨reached ++ [t], [], y.stream, ?_, rfl, ?_⟩
      · rw [htokens, List.append_assoc, List.singleton_append, hstream, List.nil_append]
      · rw [hlast, List.append_nil]
        intro u hu
        obtain rfl := List.mem_singleton.1 hu
        exact ⟨u, List.getLast?_concat, .self⟩
    | cons t front =>
      obtain ⟨rfl, hrest⟩ := List.cons.inj hstream
      refine ⟨reached, front, waiting, htokens, hrest, ?_⟩
      rw [hlast]
      intro u hu
      exact hstems u (List.mem_append_right _ hu)
  | replace hlast hkind hus =>
    rename_i t us
    obtain ⟨o, ho, ht⟩ := hstems t (List.mem_append_left _ (by rw [hlast]; exact .head _))
    refine ⟨reached, us ++ front, waiting, htokens, ?_, ?_⟩
    · rw [Cursor.stream_push, hstream, List.append_assoc]
    · intro u hu
      rw [← List.append_assoc, List.mem_append, List.mem_append] at hu
      obtain (hu | hu) | hu := hu
      · exact hstems u (List.mem_append_left _ hu)
      · exact ⟨o, ho, ht.replace hkind hus hu⟩
      · exact hstems u (List.mem_append_right _ hu)

/-- Each token in the cursor stems from a token of the text. -/
theorem exists_stems (hx : Placed c tokens x) :
    ∀ t ∈ x.last.toList ++ x.stream, ∃ o ∈ tokens, Stems c o t := by
  obtain ⟨reached, front, waiting, rfl, hstream, hstems⟩ := hx
  rw [hstream, ← List.append_assoc]
  intro t ht
  obtain ht | ht := List.mem_append.1 ht
  · obtain ⟨o, ho, hot⟩ := hstems t ht
    exact ⟨o, List.mem_append_left _ (List.mem_of_getLast? ho), hot⟩
  · exact ⟨t, List.mem_append_right _ ht, .self⟩

/-- The tokens in the cursor are in the order of the text. -/
theorem ordered (hx : Placed c tokens x) (hapart : Apart (tokens.map Token.stretch)) :
    (x.last.toList ++ x.stream).Pairwise Token.NotBehind := by
  obtain ⟨reached, front, waiting, rfl, hstream, hstems⟩ := hx
  have hnonempty : ∀ t ∈ reached ++ waiting, t.start < t.stop := fun t ht =>
    hapart.nonempty _ (List.mem_map_of_mem ht)
  obtain ⟨-, hwaiting, hcross⟩ := List.pairwise_append.1 (List.pairwise_map.1 hapart.ordered)
  rw [hstream, ← List.append_assoc, List.pairwise_append]
  refine ⟨?_, ?_, ?_⟩
  · -- these stem from one token, so they stand in one place
    refine List.pairwise_of_forall_mem_list fun t ht u hu => ?_
    obtain ⟨o, ho, hot⟩ := hstems t ht
    obtain ⟨o', ho', hou⟩ := hstems u hu
    obtain rfl := Option.some.inj (ho.symm.trans ho')
    exact ⟨by rw [hot.start_eq, hou.start_eq], by rw [hot.stop_eq, hou.stop_eq]⟩
  · refine hwaiting.imp_of_mem fun {t u} ht hu htu => ?_
    have := hnonempty t (List.mem_append_right _ ht)
    have := hnonempty u (List.mem_append_right _ hu)
    change t.stop ≤ u.start at htu
    constructor <;> omega
  · intro t ht u hu
    obtain ⟨o, ho, hot⟩ := hstems t ht
    have hmem := List.mem_of_getLast? ho
    have hle : o.stop ≤ u.start := hcross o hmem u hu
    have := hnonempty o (List.mem_append_left _ hmem)
    have := hnonempty u (List.mem_append_right _ hu)
    rw [Token.NotBehind, hot.start_eq, hot.stop_eq]
    constructor <;> omega

theorem exists_stems_last (hx : Placed c tokens x) (hlast : x.last = some t) :
    ∃ o ∈ tokens, Stems c o t :=
  hx.exists_stems t (List.mem_append_left _ (by rw [hlast]; exact .head _))

end Placed

theorem Walks.placed {events : List Event} {text : String}
    (h : Walks c ((Cursor.start text).push tokens) events x) : Placed c tokens x :=
  h.invariant Placed.move (.start c text tokens)

/-! ## Where diagnostics point -/

/-- Diagnostics that point to where tokens of the text begin or end, by the token that was accepted
last. -/
inductive Located (c : Calculator) (tokens : List (Token Kind)) (text : String) :
    Option (Token Kind) → Diagnostic → Prop where
  /-- something is wrong at the beginning, and nothing was accepted -/
  | beginning {message : String}
      (h : message = "Unexpected token" ∨ message = "Unexpected end of file") :
      Located c tokens text none ⟨.grammatical, message, text, 0⟩
  /-- something is wrong behind a token -/
  | behind {o t : Token Kind} {message : String} (ho : o ∈ tokens) (hstems : Stems c o t)
      (h : message = "Unexpected token" ∨ message = "Unexpected end of file") :
      Located c tokens text (some t) ⟨.grammatical, message, text, o.stop⟩
  /-- a number is of no use -/
  | number {o t : Token Kind} {message : String} (ho : o ∈ tokens) (hstems : Stems c o t)
      (h : message = "Number out of range" ∨ message = "Division by zero") :
      Located c tokens text (some t) ⟨.grammatical, message, text, o.start⟩
  /-- a name is not known, and it stems from a name that was written -/
  | name {o t : Token Kind} (ho : o ∈ tokens) (hstems : Stems c o t) (hkind : o.kind = .ident)
      (h : c.expansion? t.value = none) :
      Located c tokens text (some t)
        ⟨.grammatical, "Unknown name " ++ t.display, text, o.start⟩

/-- A complaint that is about the last token points to where that token stems from. -/
theorem Stems.complain_eq (h : Stems c o t) (hlast : x.last = some t) (complaint : Complaint)
    (hclamp : Text.clamp x.text.toList (complaint.offset o) = complaint.offset o) :
    x.complain complaint = ⟨.grammatical, complaint.message, x.text, complaint.offset o⟩ := by
  have hoffset : complaint.offset t = complaint.offset o := by
    cases complaint with
    | unexpected | next => exact h.stop_eq
    | last => exact h.start_eq
  rw [Cursor.complain_eq, hlast, Option.map_some, Option.getD_some, hoffset, Diagnostic.grammatical,
    hclamp]

/-- If the tokens are at boundaries of the text, diagnostics are not moved to others. -/
theorem Blames.located {text : String} {d : Diagnostic} (h : Blames c x d) (htext : x.text = text)
    (hx : Placed c tokens x)
    (hclamp : ∀ o ∈ tokens, Text.clamp text.toList o.start = o.start ∧
      Text.clamp text.toList o.stop = o.stop) :
    Located c tokens text x.last d := by
  subst htext
  cases h with
  | @next message h =>
    change Located c tokens x.text x.last (x.complain (.next message))
    cases hlast : x.last with
    | none =>
      have hzero := Text.clamp_of_mem_boundaries (Text.zero_mem_boundaries x.text.toList)
      rw [Cursor.complain_eq, hlast, Option.map_none, Option.getD_none, Diagnostic.grammatical,
        hzero]
      exact .beginning h
    | some t =>
      obtain ⟨o, ho, hot⟩ := hx.exists_stems_last hlast
      rw [hot.complain_eq hlast (.next message) (hclamp o ho).2]
      exact .behind ho hot h
  | @number t message hlast h =>
    obtain ⟨o, ho, hot⟩ := hx.exists_stems_last hlast
    change Located c tokens x.text x.last (x.complain (.last message))
    rw [hot.complain_eq hlast (.last message) (hclamp o ho).1, hlast]
    exact .number ho hot h
  | @name t hlast hkind h =>
    obtain ⟨o, ho, hot⟩ := hx.exists_stems_last hlast
    change Located c tokens x.text x.last (x.complain (.last ("Unknown name " ++ t.display)))
    rw [hot.complain_eq hlast (.last _) (hclamp o ho).1, hlast]
    exact .name ho hot (hot.kind_eq hkind) h

/-- A calculation that is run on the tokens of a text tours them. -/
theorem tours_of_grammar {g : Calculation Int} (hg : g = c.whole ∨ ∃ n, g = c.sum n)
    {s : Parser Kind × Nat} (hs : s.1.cursor.Primed) : Tours c s (g.exec s) := by
  obtain rfl | ⟨n, rfl⟩ := hg
  · exact tours_whole c hs
  · exact (touringWithin c n).sum hs

/-- **Spans survive the replacement of names.** When a calculation parses a text, its trace has one
event for each time that the cursor is moved, so that some of the first of the events tell where the
cursor is. Everywhere on its way each of the tokens that it holds stems from a token of the text and
stands where that one stands, and they are in the order of the text. A diagnostic is about the text.
It points to where one of the tokens begins or ends, or to the beginning of the text if none was
accepted; and if a name is not known, it points to the name that was written. None of these offsets
is moved to another boundary. It does not matter if the amount of steps is enough. -/
theorem parse_spans (c : Calculator) (p : Parser Kind) (m : Nat) (text : String)
    (tokens : List (Token Kind)) (hlex : p.lexer.lex text = .ok tokens) (g : Calculation Int)
    (hg : g = c.whole ∨ ∃ n, g = c.sum n) :
    let first := (Cursor.start text).push tokens
    let run := (parse .diagnostic text g).exec (p, m)
    (∃ events, run.2.1.trace.toList =
        ((p.enter text).push tokens).trace.toList ++ events ++ [.exitParse] ∧
      Walks c first events run.2.1.cursor ∧
      ∀ before, before <+: events → ∃ x, Walks c first before x ∧
        (∀ y, Walks c first before y → y = x) ∧ x.text = text ∧
        (∀ t ∈ x.last.toList ++ (x.next.toList ++ x.pending), ∃ o ∈ tokens, Stems c o t) ∧
        (x.last.toList ++ (x.next.toList ++ x.pending)).Pairwise Token.NotBehind) ∧
    (∀ d, run.1 = .error (.diagnostic d) → Located c tokens text run.2.1.cursor.last d) ∧
    (∀ o t, Stems c o t →
      t.start = o.start ∧ t.stop = o.stop ∧ (t = o ∨ o.kind = .ident)) ∧
    ∀ o ∈ tokens, Text.clamp text.toList o.start = o.start ∧
      Text.clamp text.toList o.stop = o.stop := by
  have hclamp : ∀ o ∈ tokens, Text.clamp text.toList o.start = o.start ∧
      Text.clamp text.toList o.stop = o.stop := by
    intro o ho
    obtain ⟨hstart, hstop⟩ := Lexer.mem_boundaries_of_lex hlex ho
    exact ⟨Text.clamp_of_mem_boundaries hstart, Text.clamp_of_mem_boundaries hstop⟩
  intro first run
  obtain ⟨⟨events, htrace, hwalk⟩, hblames, -⟩ :=
    tours_of_grammar hg (s := ((p.enter text).push tokens, m)) (Cursor.primed_push _ _)
  rw [show run = _ from exec_parse_of_ok hlex]
  refine ⟨⟨events, ?_, hwalk, ?_⟩, ?_, ?_, hclamp⟩
  · rw [Parser.toList_trace_leave, htrace]
  · rintro before ⟨after, rfl⟩
    obtain ⟨x, hx, -⟩ := hwalk.exists_of_append
    exact ⟨x, hx, fun y hy => hy.unique hx, hx.text_eq, hx.placed.exists_stems,
      hx.placed.ordered (Lexer.apart_of_lex hlex)⟩
  · exact fun d hd => (hblames d hd).located hwalk.text_eq hwalk.placed hclamp
  · exact fun o t h => ⟨h.start_eq, h.stop_eq, h.eq_or_kind_eq⟩

/-- A name that stands for a name that is not known: the diagnostic points to the one that was
written. -/
theorem parse_spans_of_alias :
    let c := empty.withAlias "foo" [(.ident, "bar")]
    ((parse .diagnostic "1 + foo" c.whole).exec (.new lexer, 0)).1 =
        .error (.diagnostic ⟨.grammatical, "Unknown name 'bar'", "1 + foo", 4⟩) ∧
      ∃ tokens, lexer.lex "1 + foo" = .ok tokens ∧
        Located c tokens "1 + foo"
          ((parse .diagnostic "1 + foo" c.whole).exec (.new lexer, 0)).2.1.cursor.last
          ⟨.grammatical, "Unknown name 'bar'", "1 + foo", 4⟩ := by
  intro c
  have hrun : ((parse .diagnostic "1 + foo" c.whole).exec (.new lexer, 0)).1 =
      .error (.diagnostic ⟨.grammatical, "Unknown name 'bar'", "1 + foo", 4⟩) := by decide +kernel
  have hsome : (lexer.lex "1 + foo").toOption.isSome = true := by decide +kernel
  refine ⟨hrun, ?_⟩
  cases hlex : lexer.lex "1 + foo" with
  | error d =>
    rw [hlex] at hsome
    cases hsome
  | ok tokens =>
    rw [← Parser.lexer_new lexer] at hlex
    obtain ⟨-, hlocated, -⟩ :=
      parse_spans c (.new lexer) 0 "1 + foo" tokens hlex c.whole (.inl rfl)
    exact ⟨tokens, rfl, hlocated _ hrun⟩

end Calculator

end Descent
