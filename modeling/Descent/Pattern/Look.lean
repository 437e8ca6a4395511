import Descent.Text.Place
import Descent.Unicode.Property

/-!
# What holds at a place

A pattern can ask about the place it has reached: whether it is the start or the end of the text or
of a line, and whether a word begins or ends there. The answer depends on the two characters around
the place alone.
-/

namespace Descent.Pattern

open Text (Place)

/-- How lines end. -/
inductive LineEnd where
  /-- with a line feed -/
  | lf
  /-- with a line feed, a carriage return, or both in turn -/
  | crlf
deriving DecidableEq, Repr

/-- A side of a word. -/
inductive WordSide where
  /-- a word begins or ends here -/
  | boundary
  /-- no word begins or ends here -/
  | noBoundary
  /-- a word begins here -/
  | start
  /-- a word ends here -/
  | stop
  /-- no word goes on from before this place -/
  | startHalf
  /-- no word goes on behind this place -/
  | stopHalf
deriving DecidableEq, Repr

/-- A question about a place. -/
inductive Look where
  /-- is it the start of the text? -/
  | startText
  /-- is it the end of the text? -/
  | endText
  /-- is it the start of a line? -/
  | startLine (ends : LineEnd)
  /-- is it the end of a line? -/
  | endLine (ends : LineEnd)
  /-- does it stand so to the words around it? In ASCII, letters outside it make no words. -/
  | word (side : WordSide) (ascii : Bool)
deriving DecidableEq, Repr

/-- The characters that make words of ASCII. -/
def asciiWord : CharSet :=
  CharSet.ofRanges [('0', '9'), ('A', 'Z'), ('_', '_'), ('a', 'z')]

namespace WordSide

/-- Does a place stand so, if a word's character is before it and behind it? -/
def holds (before behind : Bool) : WordSide → Bool
  | boundary => before != behind
  | noBoundary => before == behind
  | start => !before && behind
  | stop => before && !behind
  | startHalf => !before
  | stopHalf => !behind

end WordSide

namespace Look

/-- Does the place answer the question with yes? -/
def holds (p : Place) : Look → Bool
  | startText => p.prev.isNone
  | endText => p.rest.isEmpty
  | startLine .lf => p.prev.all (· == '\n')
  | endLine .lf => p.next?.all (· == '\n')
  | startLine .crlf =>
    p.prev.all fun c => c == '\n' || (c == '\r' && p.next? != some '\n')
  | endLine .crlf =>
    p.next?.all fun c => c == '\r' || (c == '\n' && p.prev != some '\r')
  | word side ascii =>
    let set := if ascii then asciiWord else Unicode.word
    side.holds (p.prev.any set.contains) (p.next?.any set.contains)

end Look

end Descent.Pattern
