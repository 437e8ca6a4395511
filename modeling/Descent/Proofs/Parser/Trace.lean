import Descent.Proofs.Lexer.Stretches
import Descent.Proofs.Parser.Session

/-!
# The trace tells what was done

What a history adds to the trace can be read off the history, event by event (`Tells`): one event
for each token that was accepted and each time that tokens were pushed, none for what was asked in
vain, and for each parse a span of events in which the lexing of the text has a span of its own.

The spans of such a trace are well bracketed, however the parses ended (`Tells.keeps`). In the
span of a lexing the skipped pieces are told of in their order; they stand apart
(`Lexer.apart_skipped`), and together with the tokens they cover the text unless something was
dropped (`Lexer.covers_merge_skipped`).

The events of `Parser.push` and `Parser.accepted` are written from the tokens that these are given.
A parser can also find them out: it may count tokens by how much longer its queue has become
(`Parser.checkedPush_eq`), and read the span of what was accepted off the token that its cursor
holds afterwards (`Parser.tellAccepted_eq`). The trace is the same
(`Session.exists_exec_checkedRun`).
-/

namespace Descent

open Text (Stretch Covers Apart)

variable {κ σ α : Type}

/-! ## Brackets -/

/-- What has a span of events. -/
inductive Span where
  /-- lexing a text -/
  | lex
  /-- parsing a text -/
  | parse
deriving DecidableEq

/-- Close a span. It can be closed if it is the innermost of those that are open. -/
def Span.close (s : Span) : List Span → Option (List Span)
  | [] => none
  | t :: opened => if t = s then some opened else none

/-- The spans that are open after an event, the innermost first. -/
def Event.nest (opened : List Span) : Event → Option (List Span)
  | .enterLex _ => some (.lex :: opened)
  | .enterParse _ => some (.parse :: opened)
  | .exitLex => Span.lex.close opened
  | .exitParse => Span.parse.close opened
  | _ => some opened

/-- Each span is closed once, after all that were opened in it. -/
def Event.Balanced (events : List Event) : Prop := events.foldlM nest [] = some []

/-! ## What is skipped -/

/-- What there is to tell of a piece that was skipped. -/
def Text.Stretch.event (s : Stretch) : Event := .skipped s.start s.stop

/-- No callback was asked for a token and had none. -/
def Scan.DropsNothing (s : Scan κ) : Prop :=
  ∀ g ∈ s.segments, ∀ decide, g.action = .callback decide → decide g.text ≠ none

/-- Where the pieces stand that were skipped. -/
def Scan.skipped (s : Scan κ) : List Stretch :=
  (s.segments.filter fun g => g.action.isSkip).map Segment.stretch

theorem Scan.filterMap_event? (s : Scan κ) :
    s.segments.filterMap Segment.event? = s.skipped.map Stretch.event := by
  rw [skipped, List.map_map, ← List.filterMap_eq_map, List.filterMap_filter]
  rfl

/-- If nothing is dropped then no token is made of just what is skipped. -/
theorem Scan.DropsNothing.isSkip_eq {s : Scan κ} (h : s.DropsNothing) {g : Segment κ}
    (hg : g ∈ s.segments) : g.action.isSkip = !g.token?.isSome := by
  have hdrop := h g hg
  rw [Segment.token?, Option.isSome_map]
  cases haction : g.action with
  | emit kind => rfl
  | skip => rfl
  | callback decide =>
    obtain ⟨_, hsome⟩ := Option.ne_none_iff_exists'.1 (hdrop decide haction)
    rw [Action.apply, hsome]
    rfl

namespace Lexer

variable {l : Lexer κ} {text : String}

/-- The events of lexing a text, the last of which is `closing`. -/
def lexSpan (l : Lexer κ) (text : String) (closing : Event) : List Event :=
  .enterLex text.utf8ByteSize :: (l.scan text).skipped.map Stretch.event ++ [closing, .exitLex]

/-- **The skipped pieces of a text stand apart**, in the order of the text. -/
theorem apart_skipped (l : Lexer κ) (text : String) : Apart (l.scan text).skipped :=
  (cuts_scan l text).covers.apart.sublist (List.filter_sublist.map _)

/-- **The tokens and the skipped pieces cover the text** if nothing is dropped. -/
theorem covers_merge_skipped {tokens : List (Token κ)} (hlex : l.lex text = .ok tokens)
    (hdrop : (l.scan text).DropsNothing) :
    Covers 0 text.utf8ByteSize
      (Text.merge (tokens.map Token.stretch) (l.scan text).skipped) := by
  obtain ⟨hstuck, rfl⟩ := tokens_of_lex hlex
  have hcovers := (cuts_scan l text).covers
  rw [hstuck, Option.getD_none] at hcovers
  rw [Scan.map_stretch_tokens, Scan.skipped, List.filter_congr fun g hg => hdrop.isSkip_eq hg,
    Text.merge_filter _ _ hcovers.apart]
  exact hcovers

theorem events_of_lex {tokens : List (Token κ)} (hlex : l.lex text = .ok tokens) :
    (l.scan text).events text = l.lexSpan text (.lexed tokens.length) := by
  obtain ⟨hstuck, rfl⟩ := tokens_of_lex hlex
  rw [Scan.events, Scan.filterMap_event?, Scan.closing, hstuck, Text.byteLength_toList, lexSpan]

/-- The event tells of the place that the diagnostic points to. -/
theorem events_of_lex_error {d : Diagnostic} (hlex : l.lex text = .error d) :
    (l.scan text).events text = l.lexSpan text (.unmatched d.offset) := by
  obtain ⟨q, hstuck, -, rfl⟩ := exists_stuck_of_lex_error hlex
  rw [Scan.events, Scan.filterMap_event?, Scan.closing, hstuck, Text.byteLength_toList, lexSpan]

end Lexer

/-! ## Histories -/

/-- The events tell the history, of a parser with the lexer. -/
inductive Tells (l : Lexer κ) : History κ α → List Event → Prop where
  /-- nothing was done -/
  | done : Tells l .done []
  /-- the lookahead was accepted -/
  | accepted {kind : κ} {t : Token κ} {h : History κ α} {events : List Event}
      (hrest : Tells l h events) :
      Tells l (.accept kind (some t) h) (.accepted t.start t.stop :: events)
  /-- the lookahead was not of the kind -/
  | refused {kind : κ} {h : History κ α} {events : List Event} (hrest : Tells l h events) :
      Tells l (.accept kind none h) events
  /-- what was expected was accepted -/
  | expected {kind : κ} {t : Token κ} {h : History κ α} {events : List Event}
      (hrest : Tells l h events) :
      Tells l (.expect kind (.ok t) h) (.accepted t.start t.stop :: events)
  /-- something else was expected -/
  | failed {kind : κ} {d : Diagnostic} {h : History κ α} {events : List Event}
      (hrest : Tells l h events) : Tells l (.expect kind (.error d) h) events
  /-- the lookahead was dropped -/
  | advanced {h : History κ α} {events : List Event} (hrest : Tells l h events) :
      Tells l (.advance h) events
  /-- tokens were put in front of what was left -/
  | pushed {tokens : List (Token κ)} {h : History κ α} {events : List Event}
      (hrest : Tells l h events) : Tells l (.push tokens h) (.pushed tokens.length :: events)
  /-- a diagnostic was made -/
  | complained {complaint : Complaint} {d : Diagnostic} {h : History κ α} {events : List Event}
      (hrest : Tells l h events) : Tells l (.complain complaint d h) events
  /-- a text could not be lexed -/
  | unlexed {text : String} {d : Diagnostic} {h : History κ α} {events : List Event}
      (hlex : l.lex text = .error d) (hrest : Tells l h events) :
      Tells l (.parse text .done (.error d) h)
        (.enterParse text.utf8ByteSize :: l.lexSpan text (.unmatched d.offset) ++
          .exitParse :: events)
  /-- a text was parsed -/
  | parsed {text : String} {tokens : List (Token κ)} {inner h : History κ α}
      {result : Except Diagnostic α} {during events : List Event}
      (hlex : l.lex text = .ok tokens) (hinner : Tells l inner during)
      (hrest : Tells l h events) :
      Tells l (.parse text inner result h)
        (.enterParse text.utf8ByteSize :: l.lexSpan text (.lexed tokens.length) ++
          .pushed tokens.length :: during ++ .exitParse :: events)

/-- **What happens adds to the trace what tells of it.** -/
theorem Happens.tells [BEq κ] {p q : Parser κ} {h : History κ α} (hh : Happens p h q) :
    ∃ events, q.trace.toList = p.trace.toList ++ events ∧ Tells p.lexer h events := by
  induction hh with
  | done p => exact ⟨[], (List.append_nil _).symm, .done⟩
  | accept hc _ ih =>
    obtain ⟨events, htrace, htells⟩ := ih
    rw [Parser.toList_trace_accepted, List.append_assoc] at htrace
    exact ⟨_, htrace, .accepted htells⟩
  | refuse _ _ ih =>
    obtain ⟨events, htrace, htells⟩ := ih
    exact ⟨_, htrace, .refused htells⟩
  | expect hc _ ih =>
    obtain ⟨events, htrace, htells⟩ := ih
    rw [Parser.toList_trace_accepted, List.append_assoc] at htrace
    exact ⟨_, htrace, .expected htells⟩
  | mismatch _ _ ih =>
    obtain ⟨events, htrace, htells⟩ := ih
    exact ⟨_, htrace, .failed htells⟩
  | advance _ ih =>
    obtain ⟨events, htrace, htells⟩ := ih
    exact ⟨_, htrace, .advanced htells⟩
  | push _ ih =>
    obtain ⟨events, htrace, htells⟩ := ih
    rw [Parser.toList_trace_push, List.append_assoc] at htrace
    exact ⟨_, htrace, .pushed htells⟩
  | complain _ ih =>
    obtain ⟨events, htrace, htells⟩ := ih
    exact ⟨_, htrace, .complained htells⟩
  | unlexed hlex _ ih =>
    obtain ⟨events, htrace, htells⟩ := ih
    refine ⟨_, ?_, .unlexed hlex htells⟩
    rw [htrace, Parser.toList_trace_leave, Parser.toList_trace_enter, Text.byteLength_toList,
      Lexer.events_of_lex_error hlex]
    simp
  | parse hlex hinner _ ihinner ihrest =>
    obtain ⟨during, hduring, htells⟩ := ihinner
    obtain ⟨events, htrace, htells'⟩ := ihrest
    rw [Parser.lexer_leave, hinner.lexer_eq] at htells'
    refine ⟨_, ?_, .parsed hlex htells htells'⟩
    rw [htrace, Parser.toList_trace_leave, hduring, Parser.toList_trace_push,
      Parser.toList_trace_enter, Text.byteLength_toList, Lexer.events_of_lex hlex]
    simp

/-! ## Spans are closed -/

namespace Event

/-- The events leave open what was open before, and close what they open. -/
def Keeps (events : List Event) : Prop := ∀ opened, events.foldlM nest opened = some opened

variable {events events' : List Event}

theorem Keeps.append (h : Keeps events) (h' : Keeps events') : Keeps (events ++ events') := by
  intro opened
  rw [List.foldlM_append, h opened]
  exact h' opened

/-- A span of events that close what they open closes what it opens. -/
theorem Keeps.parseSpan {length : Nat} (h : Keeps events) (h' : Keeps events') :
    Keeps (.enterParse length :: events ++ .exitParse :: events') := by
  intro opened
  change (events ++ .exitParse :: events').foldlM nest (.parse :: opened) = some opened
  rw [List.foldlM_append, h]
  exact h' opened

theorem keeps_map_event (stretches : List Stretch) : Keeps (stretches.map Stretch.event) := by
  intro opened
  induction stretches with
  | nil => rfl
  | cons s stretches ih => exact ih

end Event

open Event (Keeps)

theorem Lexer.keeps_lexSpan (l : Lexer κ) (text : String) {closing : Event}
    (hclosing : Keeps [closing]) : Keeps (l.lexSpan text closing) := by
  intro opened
  have hskipped := Event.keeps_map_event (l.scan text).skipped (.lex :: opened)
  change ((l.scan text).skipped.map Stretch.event ++ [closing, .exitLex]).foldlM Event.nest
    (.lex :: opened) = some opened
  rw [List.foldlM_append, hskipped]
  change ([closing] ++ [Event.exitLex]).foldlM Event.nest (.lex :: opened) = some opened
  rw [List.foldlM_append, hclosing]
  rfl

/-- **Events that tell a history close each span that they open**, and only those. -/
theorem Tells.keeps {l : Lexer κ} {h : History κ α} {events : List Event} (ht : Tells l h events) :
    Keeps events := by
  induction ht with
  | done => exact fun _ => rfl
  | accepted _ ih | expected _ ih | pushed _ ih => exact ih
  | refused _ ih | failed _ ih | advanced _ ih | complained _ ih => exact ih
  | @unlexed text d _ _ _ _ ih =>
    have hlex : Keeps (l.lexSpan text (.unmatched d.offset)) := l.keeps_lexSpan text fun _ => rfl
    exact hlex.parseSpan ih
  | @parsed text tokens _ _ _ during _ _ _ _ ihinner ihrest =>
    have hlex : Keeps (l.lexSpan text (.lexed tokens.length)) := l.keeps_lexSpan text fun _ => rfl
    have hduring : Keeps (.pushed tokens.length :: during) := ihinner
    exact (hlex.append hduring).parseSpan ihrest

/-- **The trace tells the truth about every run.** What a session, or any program, does with a
parser is told by the events that it adds to the trace, one by one, with the spans of parses and of
lexings well bracketed. In each lexing the skipped pieces stand apart, in order; and if the text
could be lexed and nothing was dropped, the tokens and the skipped pieces cover the text.

A session that counts what it pushes, and looks up what it has accepted, leaves the same trace:
that is `Session.exists_exec_checkedRun`, with `Parser.checkedPush_eq` and
`Parser.tellAccepted_eq`. -/
theorem Session.trace_truthful [BEq κ] :
    (∀ (p₀ : Parser κ) (session : Session κ α), ∃ h p m events,
      session.grammar.exec (p₀, .done) = (.ok h, (p, m)) ∧
        p.trace.toList = p₀.trace.toList ++ events ∧ Tells p₀.lexer h events ∧
          Event.Balanced events) ∧
    (∀ (p₀ : Parser κ) (prog : Program κ σ α) (memory : σ), ∃ (h m : History κ α) (events : _),
      let p := (prog.grammar.exec (p₀, memory)).2.1
      h.session.grammar.exec (p₀, .done) = (.ok h, (p, m)) ∧
        p.trace.toList = p₀.trace.toList ++ events ∧ Tells p₀.lexer h events ∧
          Event.Balanced events) ∧
    ∀ (l : Lexer κ) (text : String), Apart (l.scan text).skipped ∧
      ∀ tokens, l.lex text = .ok tokens → (l.scan text).DropsNothing →
        Covers 0 text.utf8ByteSize
          (Text.merge (tokens.map Token.stretch) (l.scan text).skipped) := by
  refine ⟨fun p₀ session => ?_, fun p₀ prog memory => ?_, fun l text => ?_⟩
  · obtain ⟨h, p, m, hrun, hh⟩ := session.exists_happens p₀ .done
    obtain ⟨events, htrace, htells⟩ := hh.tells
    exact ⟨h, p, m, events, hrun, htrace, htells, htells.keeps []⟩
  · obtain ⟨h, hh⟩ := prog.exists_happens p₀ memory
    obtain ⟨m, hrun⟩ := hh.exec_session .done
    obtain ⟨events, htrace, htells⟩ := hh.tells
    exact ⟨h, m, events, hrun, htrace, htells, htells.keeps []⟩
  · exact ⟨l.apart_skipped text, fun _ => Lexer.covers_merge_skipped⟩

end Descent
