import Descent.Pattern.Span
import Descent.Text.Lines

/-!
# Errors in patterns

A pattern is refused for one `Cause`, at one part of the pattern. Some causes point at a second
part, such as the first use of a name that is used twice.

`Error.message` is the text shown for the error: the pattern, marks under the part that is to blame,
and the cause in words. A pattern of several lines is shown between two rules, its lines numbered.
-/

namespace Descent.Pattern

/-- Why a pattern is refused. -/
inductive Cause where
  | classEscapeInvalid
  | classRangeInvalid
  | classRangeLiteral
  | classUnclosed
  | decimalInvalid
  | escapeHexEmpty
  | escapeHexInvalid
  | escapeHexInvalidDigit
  | escapeUnexpectedEnd
  | escapeUnrecognized
  | flagDanglingNegation
  | flagDuplicate (earlier : Span)
  | flagRepeatedNegation (earlier : Span)
  | flagUnexpectedEnd
  | flagUnrecognized
  | groupNameDuplicate (earlier : Span)
  | groupNameEmpty
  | groupNameInvalid
  | groupNameUnexpectedEnd
  | groupUnclosed
  | groupUnopened
  | nestLimitExceeded (limit : Nat)
  | repetitionCountInvalid
  | repetitionCountDecimalEmpty
  | repetitionCountUnclosed
  | repetitionMissing
  | specialWordBoundaryUnclosed
  | specialWordBoundaryUnrecognized
  | specialWordOrRepetitionUnexpectedEnd
  | propertyNameInvalid
  | unsupportedBackreference
  | unsupportedLookAround
  | unicodeNotAllowed
  | invalidUtf8
  | propertyNotFound
  | propertyValueNotFound
deriving DecidableEq, Repr

namespace Cause

/-- The cause in words. -/
def message : Cause → String
  | classEscapeInvalid => "invalid escape sequence found in character class"
  | classRangeInvalid => "invalid character class range, the start must be <= the end"
  | classRangeLiteral => "invalid range boundary, must be a literal"
  | classUnclosed => "unclosed character class"
  | decimalInvalid => "decimal literal invalid"
  | escapeHexEmpty => "hexadecimal literal empty"
  | escapeHexInvalid => "hexadecimal literal is not a Unicode scalar value"
  | escapeHexInvalidDigit => "invalid hexadecimal digit"
  | escapeUnexpectedEnd => "incomplete escape sequence, reached end of pattern prematurely"
  | escapeUnrecognized => "unrecognized escape sequence"
  | flagDanglingNegation => "dangling flag negation operator"
  | flagDuplicate _ => "duplicate flag"
  | flagRepeatedNegation _ => "flag negation operator repeated"
  | flagUnexpectedEnd => "expected flag but got end of regex"
  | flagUnrecognized => "unrecognized flag"
  | groupNameDuplicate _ => "duplicate capture group name"
  | groupNameEmpty => "empty capture group name"
  | groupNameInvalid => "invalid capture group character"
  | groupNameUnexpectedEnd => "unclosed capture group name"
  | groupUnclosed => "unclosed group"
  | groupUnopened => "unopened group"
  | nestLimitExceeded limit =>
    "exceed the maximum number of nested parentheses/brackets (" ++ toString limit ++ ")"
  | repetitionCountInvalid =>
    "invalid repetition count range, the start must be <= the end"
  | repetitionCountDecimalEmpty => "repetition quantifier expects a valid decimal"
  | repetitionCountUnclosed => "unclosed counted repetition"
  | repetitionMissing => "repetition operator missing expression"
  | specialWordBoundaryUnclosed =>
    "special word boundary assertion is either unclosed or contains an invalid character"
  | specialWordBoundaryUnrecognized =>
    "unrecognized special word boundary assertion, " ++
      "valid choices are: start, end, start-half or end-half"
  | specialWordOrRepetitionUnexpectedEnd =>
    "found either the beginning of a special word boundary or a bounded repetition on a \\b " ++
      "with an opening brace, but no closing brace"
  | propertyNameInvalid => "invalid Unicode character class"
  | unsupportedBackreference => "backreferences are not supported"
  | unsupportedLookAround =>
    "look-around, including look-ahead and look-behind, is not supported"
  | unicodeNotAllowed => "Unicode not allowed here"
  | invalidUtf8 => "pattern can match invalid UTF-8"
  | propertyNotFound => "Unicode property not found"
  | propertyValueNotFound => "Unicode property value not found"

/-- The second part of the pattern that the cause points at. -/
def earlier? : Cause → Option Span
  | flagDuplicate s | flagRepeatedNegation s | groupNameDuplicate s => some s
  | _ => none

end Cause

/-- A pattern's error: why, and where. -/
structure Error where
  /-- why the pattern is refused -/
  cause : Cause
  /-- the part of the pattern that is to blame -/
  span : Span
deriving DecidableEq, Repr

namespace Error

/-! ## The picture of the pattern -/

/-- The parts to mark, in order. -/
def marked (e : Error) : List Span :=
  match e.cause.earlier? with
  | none => [e.span]
  | some s => if e.span.le s then [e.span, s] else [s, e.span]

/-- The marks under one line, the text from column `column` on. A part without characters has one
mark all the same. -/
def marks (column : Nat) : List Span → List Char
  | [] => []
  | s :: rest =>
    let width := max 1 (s.stop.column - s.start.column)
    List.replicate (s.start.column - column) ' ' ++ List.replicate width '^' ++
      marks (max column s.start.column + width) rest

/-- How many columns the line numbers take: none where the pattern has one line. A line feed at the
end of the pattern begins one more line. -/
def numberWidth (pattern : List Char) : Nat :=
  let count := (Text.lines pattern).length + if pattern.getLast? = some '\n' then 1 else 0
  if count ≤ 1 then 0 else (toString count).length

/-- A line number with a colon behind it, or the indentation of a pattern of one line. -/
def margin (width n : Nat) : List Char :=
  if width = 0 then List.replicate 4 ' '
  else
    let digits := (toString n).toList
    List.replicate (width - digits.length) ' ' ++ digits ++ [':', ' ']

/-- The lines from the `n`-th on, each with its marks under it. -/
def picture (width : Nat) (spans : List Span) (n : Nat) : List (List Char) → List Char
  | [] => []
  | line :: rest =>
    let here := spans.filter fun s => s.start.line == n
    let under :=
      if here.isEmpty then []
      else List.replicate (if width = 0 then 4 else width + 2) ' ' ++ marks 1 here ++ ['\n']
    margin width n ++ line ++ ['\n'] ++ under ++ picture width spans (n + 1) rest

/-- Where a part that spans several lines begins and ends. -/
def extent (s : Span) : String :=
  "on line " ++ toString s.start.line ++ " (column " ++ toString s.start.column ++
    ") through line " ++ toString s.stop.line ++ " (column " ++ toString (s.stop.column - 1) ++ ")"

/-- The text shown for the error. -/
def message (e : Error) (pattern : String) : String :=
  let text := pattern.toList
  let spans := e.marked
  let body := String.ofList
    (picture (numberWidth text) (spans.filter Span.isOneLine) 1 (Text.lines text))
  if text.contains '\n' then
    let rule := String.ofList (List.replicate 79 '~') ++ "\n"
    let wide := spans.filter fun s => !s.isOneLine
    let extents := if wide.isEmpty then "" else "\n".intercalate (wide.map extent) ++ "\n"
    "regex parse error:\n" ++ rule ++ body ++ rule ++ extents ++ "error: " ++ e.cause.message
  else
    "regex parse error:\n" ++ body ++ "error: " ++ e.cause.message

end Error

end Descent.Pattern
