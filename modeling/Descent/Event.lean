/-!
# Events

A run leaves a trace of events behind. Lexing and parsing have an event when they begin and one when
they end, however they end; what happens in between stands between the two.
-/

namespace Descent

/-- Something that happened in a run. -/
inductive Event where
  /-- a lexicon was compiled -/
  | compiled (rules : Nat)
  /-- a text of some bytes is going to be lexed -/
  | enterLex (length : Nat)
  /-- lexing has ended -/
  | exitLex
  /-- a piece of the text was skipped -/
  | skipped (start stop : Nat)
  /-- no rule matches at an offset -/
  | unmatched (offset : Nat)
  /-- the whole text has been cut into some tokens -/
  | lexed (tokens : Nat)
  /-- a text of some bytes is going to be parsed -/
  | enterParse (length : Nat)
  /-- parsing has ended -/
  | exitParse
  /-- some tokens were put in front of a stream -/
  | pushed (tokens : Nat)
  /-- a token with a span was accepted -/
  | accepted (start stop : Nat)
deriving DecidableEq, Repr

end Descent
