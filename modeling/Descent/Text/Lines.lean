/-!
# Lines

A line ends with a line feed, which does not belong to it, and neither does a carriage return right
before the line feed. Behind the last line feed there is a line only if something stands there.
-/

namespace Descent.Text

/-- The line that has been read so far, in reverse, without a carriage return at its end. -/
def lineOf : List Char → List Char
  | '\r' :: cs => cs.reverse
  | cs => cs.reverse

/-- The lines of a text; `line` holds what has been read of the current line, in reverse. -/
def linesFrom (line : List Char) : List Char → List (List Char)
  | [] => if line.isEmpty then [] else [line.reverse]
  | '\n' :: cs => lineOf line :: linesFrom [] cs
  | c :: cs => linesFrom (c :: line) cs

/-- The lines of a text. -/
def lines (text : List Char) : List (List Char) := linesFrom [] text

end Descent.Text
