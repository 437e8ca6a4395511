import Descent.Pattern.Span
import Descent.Unicode.Property

/-!
# The syntax of patterns

What a pattern says, part by part, before its flags are worked into it. Every part knows where in
the pattern it stands, for diagnostics that come up later.
-/

namespace Descent.Pattern

/-- The flags that a pattern can set and clear. -/
inductive Flag where
  | ignoreCase
  | multiLine
  | dotAll
  | swapGreed
  | unicode
  | crlf
  | extended
deriving DecidableEq, Repr

/-- An item of a list of flags: a flag, or the mark after which flags are cleared. -/
inductive FlagItem where
  | negation
  | flag (f : Flag)
deriving DecidableEq, Repr

/-- What a list of flags says about one flag. -/
def flagState (f : Flag) : Bool → List FlagItem → Option Bool
  | _, [] => none
  | _, .negation :: rest => flagState f false rest
  | on, .flag g :: rest => if f = g then some on else flagState f on rest

/-- A character that stands for itself. -/
structure Literal where
  /-- where it stands -/
  span : Span
  /-- the character -/
  char : Char
  /-- was it written as `\x` with two digits, which can also mean a byte? -/
  isByte : Bool
deriving DecidableEq, Repr

/-- The classes `\d`, `\s` and `\w`. -/
inductive Shorthand where
  | digit
  | space
  | word
deriving DecidableEq, Repr

/-- The classes that are written `[:name:]`. -/
inductive Posix where
  | alnum | alpha | ascii | blank | cntrl | digit | graph | lower | print | punct | space | upper
  | word | xdigit
deriving DecidableEq, Repr

/-- What a pattern can say about a place. -/
inductive Assertion where
  | startLine
  | endLine
  | startText
  | endText
  | wordBoundary
  | notWordBoundary
  | wordStart
  | wordEnd
  | wordStartHalf
  | wordEndHalf
deriving DecidableEq, Repr

/-- The operations on two classes. -/
inductive SetOp where
  | intersection
  | difference
  | symmetricDifference
deriving DecidableEq, Repr

mutual

/-- An item of a class in brackets. -/
inductive ClassItem where
  | empty (span : Span)
  | literal (l : Literal)
  | range (span : Span) (lo hi : Literal)
  | posix (span : Span) (negated : Bool) (kind : Posix)
  | property (span : Span) (negated : Bool) (query : Unicode.Property)
  | shorthand (span : Span) (negated : Bool) (kind : Shorthand)
  | bracketed (span : Span) (negated : Bool) (set : ClassSet)
  | union (span : Span) (items : List ClassItem)

/-- What stands between the brackets of a class. -/
inductive ClassSet where
  | item (i : ClassItem)
  | binary (span : Span) (op : SetOp) (lhs rhs : ClassSet)

end

namespace ClassItem

/-- Where the item stands. -/
def span : ClassItem → Span
  | empty s | range s _ _ | posix s _ _ | property s _ _ | shorthand s _ _ | bracketed s _ _
  | union s _ => s
  | literal l => l.span

end ClassItem

namespace ClassSet

/-- Where the set stands. -/
def span : ClassSet → Span
  | item i => i.span
  | binary s _ _ _ => s

end ClassSet

/-- What a pair of parentheses does. -/
inductive GroupKind where
  /-- it remembers what it matched, under a number -/
  | capture (index : Nat)
  /-- it holds together, with some flags set -/
  | plain (flags : List FlagItem)
deriving DecidableEq, Repr

/-- A part of a pattern. -/
inductive Ast where
  | empty (span : Span)
  | flags (span : Span) (items : List FlagItem)
  | literal (l : Literal)
  | dot (span : Span)
  | assertion (span : Span) (kind : Assertion)
  | property (span : Span) (negated : Bool) (query : Unicode.Property)
  | shorthand (span : Span) (negated : Bool) (kind : Shorthand)
  | bracketed (span : Span) (negated : Bool) (set : ClassSet)
  | repetition (span : Span) (min : Nat) (max : Option Nat) (greedy : Bool) (sub : Ast)
  | group (span : Span) (kind : GroupKind) (sub : Ast)
  | alternation (span : Span) (subs : List Ast)
  | concat (span : Span) (subs : List Ast)

namespace Ast

/-- Where the part stands. -/
def span : Ast → Span
  | empty s | flags s _ | dot s | assertion s _ | property s _ _ | shorthand s _ _
  | bracketed s _ _ | repetition s _ _ _ _ | group s _ _ | alternation s _ | concat s _ => s
  | literal l => l.span

end Ast

end Descent.Pattern
