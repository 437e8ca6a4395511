import Descent.Pattern
import Descent.Diagnostic
import Descent.Token
import Descent.Event
import Descent.Lexicon

/-!
# Lexers

A lexer is a compiled lexicon. It cuts a text into segments: at each place the first rule whose
preferred match there is not empty takes the text that it matches, and the scan goes on behind it
(`Lexer.scan`). The scan ends at the end of the text, or at the first place at which no rule takes
anything.

Everything else is read off the scan. The tokens are what the actions make of the segments, lexing
fails where the scan got stuck, and the events tell of the segments that were skipped.
-/

namespace Descent

/-! ## Compiling -/

/-- Why a lexicon makes no lexer. -/
inductive LexiconError where
  /-- it has no rules -/
  | empty
  /-- the rule with this number, counted from zero, has a pattern that is refused -/
  | invalidPattern (index : Nat) (pattern : String) (error : Pattern.Error)
deriving DecidableEq, Repr

namespace LexiconError

/-- The error in words. -/
def message : LexiconError → String
  | empty => "Lexicon has no rules"
  | invalidPattern index pattern error =>
    "Invalid pattern #" ++ toString index ++ " \x60" ++ pattern ++ "\x60: " ++
      error.message pattern

end LexiconError

/-- A rule whose pattern is compiled. -/
structure CompiledRule (κ : Type) where
  /-- the compiled pattern -/
  pattern : Pattern
  /-- what to do with what it matches -/
  action : Action κ

/-- A compiled lexicon. -/
structure Lexer (κ : Type) where
  /-- the compiled rules, the most preferred first -/
  rules : List (CompiledRule κ)

variable {κ : Type}

/-- Compile rules, the first of which has the given number. -/
def compileRules (ignoreCase : Bool) (index : Nat) :
    List (Rule κ) → Except LexiconError (List (CompiledRule κ))
  | [] => .ok []
  | r :: rules =>
    match Pattern.compile ignoreCase r.pattern with
    | .error e => .error (.invalidPattern index r.pattern e)
    | .ok p => (compileRules ignoreCase (index + 1) rules).map (⟨p, r.action⟩ :: ·)

/-- Compile a lexicon. The first rule with a bad pattern is the one that is reported. -/
def Lexicon.compile (l : Lexicon κ) : Except LexiconError (Lexer κ) :=
  if l.isEmpty then .error .empty
  else (compileRules l.ignoreCase 0 l.rules).map Lexer.mk

/-! ## Scanning -/

/-- What a rule takes at a place. -/
structure Hit (κ : Type) where
  /-- the number of the rule, counted from zero -/
  index : Nat
  /-- the rule -/
  rule : CompiledRule κ
  /-- how many characters it takes -/
  length : Nat
  /-- it takes something -/
  length_pos : 0 < length

/-- A piece of a text, and the rule that took it. -/
structure Segment (κ : Type) where
  /-- the number of the rule, counted from zero -/
  index : Nat
  /-- what to do with the piece -/
  action : Action κ
  /-- the offset at which the piece begins -/
  start : Nat
  /-- the piece -/
  text : String

/-- How far a text could be cut. -/
structure Scan (κ : Type) where
  /-- the segments, one right behind the other -/
  segments : List (Segment κ)
  /-- the offset at which no rule takes anything -/
  stuck : Option Nat

namespace Lexer

/-- What the first rule takes that takes anything; the first rule has the given number. -/
def firstHit? (p : Text.Place) (index : Nat) : List (CompiledRule κ) → Option (Hit κ)
  | [] => none
  | r :: rules =>
    match r.pattern.preferred? p with
    | some (n + 1) => some ⟨index, r, n + 1, Nat.succ_pos n⟩
    | _ => firstHit? p (index + 1) rules

/-- What is taken at a place. -/
def hit? (l : Lexer κ) (p : Text.Place) : Option (Hit κ) := firstHit? p 0 l.rules

/-- Cut the text from a place on, whose offset is `start`. -/
def scanFrom (l : Lexer κ) (start : Nat) (p : Text.Place) : Scan κ :=
  if _more : p.rest = [] then ⟨[], none⟩
  else match l.hit? p with
    | none => ⟨[], some start⟩
    | some hit =>
      let piece := p.rest.take hit.length
      let after := l.scanFrom (start + Text.byteLength piece) (p.skip hit.length)
      ⟨⟨hit.index, hit.rule.action, start, String.ofList piece⟩ :: after.segments, after.stuck⟩
termination_by p.rest.length
decreasing_by
  have := hit.length_pos
  have := List.length_pos_iff.2 _more
  rw [Text.Place.rest_skip, List.length_drop]
  omega

/-- Cut a text. -/
def scan (l : Lexer κ) (text : String) : Scan κ :=
  l.scanFrom 0 (.start text.toList)

end Lexer

/-! ## Tokens and events -/

namespace Segment

/-- The offset at which the segment ends. -/
def stop (s : Segment κ) : Nat := s.start + Text.byteLength s.text.toList

/-- The token that the action makes of the segment. -/
def token? (s : Segment κ) : Option (Token κ) :=
  (s.action.apply s.text).map fun (kind, value) => ⟨kind, value, s.start, s.stop⟩

/-- What there is to tell of the segment: that it was skipped. -/
def event? (s : Segment κ) : Option Event :=
  if s.action.isSkip then some (.skipped s.start s.stop) else none

end Segment

namespace Scan

/-- The tokens that were made before the scan ended. -/
def tokens (s : Scan κ) : List (Token κ) := s.segments.filterMap Segment.token?

/-- How lexing a text ends, if this is its scan. -/
def result (text : String) (s : Scan κ) : Except Diagnostic (List (Token κ)) :=
  match s.stuck with
  | none => .ok s.tokens
  | some offset => .error (.lexical Diagnostic.invalidCharacter text offset)

/-- The event with which the scan ends. -/
def closing (s : Scan κ) : Event :=
  match s.stuck with
  | none => .lexed s.tokens.length
  | some offset => .unmatched offset

/-- All that there is to tell of lexing a text, if this is its scan. -/
def events (text : String) (s : Scan κ) : List Event :=
  .enterLex (Text.byteLength text.toList) :: s.segments.filterMap Segment.event? ++
    [s.closing, .exitLex]

end Scan

namespace Lexer

/-- The tokens of a text, or why it has none. -/
def lex (l : Lexer κ) (text : String) : Except Diagnostic (List (Token κ)) :=
  (l.scan text).result text

/-- How many rules there are. -/
def ruleCount (l : Lexer κ) : Nat := l.rules.length

/-- A compiled rule, field by field. -/
def ruleListing (showKind : κ → String) (r : CompiledRule κ) : String :=
  "CompiledRule \x7b regex: Regex(" ++ Text.quoted r.pattern.source ++ "), action: " ++
    r.action.listing showKind ++ " \x7d"

/-- All that a lexer holds, field by field. -/
def listing (showKind : κ → String) (l : Lexer κ) : String :=
  "Lexer \x7b rules: [" ++ ", ".intercalate (l.rules.map (ruleListing showKind)) ++ "] \x7d"

end Lexer

end Descent
