import Descent.Pattern.Form
import Descent.Pattern.Error
import Descent.Pattern.Syntax
import Descent.Unicode.Fold

/-!
# What the syntax means

`Ast.form` gives each part of a pattern its form. The flags that are in force go along from part to
part: flags set in a group hold until the group ends, across its branches.

With the flag `u` cleared, a class is a class of bytes. Since only whole characters are matched,
such a class may not go beyond ASCII, or the pattern is refused.
-/

namespace Descent.Pattern

/-- The flags in force. -/
structure Flags where
  /-- letter case says nothing -/
  ignoreCase : Bool
  /-- `^` and `$` hold at the ends of lines too -/
  multiLine : Bool
  /-- `.` matches line ends too -/
  dotAll : Bool
  /-- repetitions are greedy only with a question mark -/
  swapGreed : Bool
  /-- classes are classes of characters, not of bytes -/
  unicode : Bool
  /-- a carriage return is a line end too -/
  crlf : Bool
deriving DecidableEq, Repr

namespace Flags

/-- The flags before a pattern sets any. -/
def initial (ignoreCase : Bool) : Flags :=
  ⟨ignoreCase, false, false, false, true, false⟩

/-- The flags after a list of flags. -/
def apply (items : List FlagItem) (f : Flags) : Flags :=
  let value (flag : Flag) (old : Bool) : Bool := (flagState flag true items).getD old
  ⟨value .ignoreCase f.ignoreCase, value .multiLine f.multiLine, value .dotAll f.dotAll,
   value .swapGreed f.swapGreed, value .unicode f.unicode, value .crlf f.crlf⟩

end Flags

/-! ## Classes -/

namespace Posix

/-- The characters of the class. -/
def set : Posix → CharSet
  | alnum => .ofRanges [('0', '9'), ('A', 'Z'), ('a', 'z')]
  | alpha => .ofRanges [('A', 'Z'), ('a', 'z')]
  | ascii => .range '\x00' '\x7f'
  | blank => .ofList ['\t', ' ']
  | cntrl => .ofRanges [('\x00', '\x1f'), ('\x7f', '\x7f')]
  | digit => .range '0' '9'
  | graph => .range '!' '~'
  | lower => .range 'a' 'z'
  | print => .range ' ' '~'
  | punct => .ofRanges [('!', '/'), (':', '@'), ('[', '\x60'), ('\x7b', '~')]
  | space => .ofRanges [('\t', '\r'), (' ', ' ')]
  | upper => .range 'A' 'Z'
  | word => asciiWord
  | xdigit => .ofRanges [('0', '9'), ('A', 'F'), ('a', 'f')]

end Posix

namespace Shorthand

/-- The characters of the class. -/
def set (unicode : Bool) : Shorthand → CharSet
  | digit => if unicode then Unicode.decimalDigit else Posix.digit.set
  | space => if unicode then Unicode.whiteSpace else Posix.space.set
  | word => if unicode then Unicode.word else asciiWord

end Shorthand

namespace SetOp

/-- The operation on sets. -/
def apply : SetOp → CharSet → CharSet → CharSet
  | intersection => CharSet.inter
  | difference => CharSet.diff
  | symmetricDifference => CharSet.symmDiff

end SetOp

/-- The set with all cases of its characters, if case says nothing. -/
def Flags.fold (f : Flags) (s : CharSet) : CharSet :=
  if !f.ignoreCase then s
  else if f.unicode then Unicode.closeUnderCase s
  else Unicode.closeUnderAsciiCase s

/-- What is not in the set: of all characters, or of all bytes. -/
def Flags.negate (f : Flags) (s : CharSet) : CharSet :=
  if f.unicode then s.complement else (CharSet.range '\x00' '\xff').diff s

/-- The set or what is not in it. A class of bytes beyond ASCII is refused. -/
def Flags.close (f : Flags) (span : Span) (negated : Bool) (s : CharSet) : Except Error CharSet :=
  let s := if negated then f.negate s else s
  if !f.unicode && !s.isAscii then .error ⟨.invalidUtf8, span⟩ else .ok s

/-- The character that a literal in a class stands for. -/
def Literal.inClass (f : Flags) (l : Literal) : Except Error Char :=
  if f.unicode ∨ l.char.toNat < 0x80 then .ok l.char
  else if l.isByte then .error ⟨.invalidUtf8, l.span⟩
  else .error ⟨.unicodeNotAllowed, l.span⟩

/-- The characters with a property, or those without it. -/
def propertySet (f : Flags) (span : Span) (negated : Bool) (query : Unicode.Property) :
    Except Error CharSet :=
  if !f.unicode then .error ⟨.unicodeNotAllowed, span⟩
  else match query.lookup with
    | .error .unknownProperty => .error ⟨.propertyNotFound, span⟩
    | .error .unknownValue => .error ⟨.propertyValueNotFound, span⟩
    | .ok s => f.close span negated (f.fold s)

mutual

/-- The characters of an item of a class. -/
def ClassItem.chars (f : Flags) : ClassItem → Except Error CharSet
  | .empty _ => .ok .empty
  | .literal l => return .single (← l.inClass f)
  | .range _ lo hi => return .range (← lo.inClass f) (← hi.inClass f)
  | .posix span negated kind => f.close span negated (f.fold kind.set)
  | .property span negated query => propertySet f span negated query
  | .shorthand span negated kind => f.close span negated (kind.set f.unicode)
  | .bracketed span negated set => do f.close span negated (f.fold (← set.chars f))
  | .union _ items => itemChars f items

/-- The characters of a class. -/
def ClassSet.chars (f : Flags) : ClassSet → Except Error CharSet
  | .item i => i.chars f
  | .binary _ op lhs rhs => do
    let lhs ← lhs.chars f
    let rhs ← rhs.chars f
    return op.apply (f.fold lhs) (f.fold rhs)

/-- The characters of some items of a class. -/
def itemChars (f : Flags) : List ClassItem → Except Error CharSet
  | [] => .ok .empty
  | i :: items => do
    let s ← i.chars f
    return s.union (← itemChars f items)

end

/-! ## Parts -/

/-- A character that stands for itself, in all its cases if case says nothing. -/
def Literal.form (f : Flags) (l : Literal) : Except Error Form :=
  if !f.unicode && l.isByte && 0x80 ≤ l.char.toNat then .error ⟨.invalidUtf8, l.span⟩
  else .ok (.ofSet (if f.unicode ∨ l.char.toNat < 0x80 then f.fold (.single l.char)
    else .single l.char))

/-- Any character, but for line ends. -/
def dotForm (f : Flags) (span : Span) : Except Error Form :=
  if !f.unicode then .error ⟨.invalidUtf8, span⟩
  else if f.dotAll then .ok (.set .all)
  else if f.crlf then .ok (.set (CharSet.ofList ['\n', '\r']).complement)
  else .ok (.set (CharSet.single '\n').complement)

/-- The question that an assertion asks. -/
def Assertion.look (f : Flags) : Assertion → Look
  | startLine =>
    if f.multiLine then .startLine (if f.crlf then .crlf else .lf) else .startText
  | endLine =>
    if f.multiLine then .endLine (if f.crlf then .crlf else .lf) else .endText
  | startText => .startText
  | endText => .endText
  | wordBoundary => .word .boundary !f.unicode
  | notWordBoundary => .word .noBoundary !f.unicode
  | wordStart => .word .start !f.unicode
  | wordEnd => .word .stop !f.unicode
  | wordStartHalf => .word .startHalf !f.unicode
  | wordEndHalf => .word .stopHalf !f.unicode

mutual

/-- The form of a part, and the flags in force behind it. -/
def Ast.form (f : Flags) : Ast → Except Error (Form × Flags)
  | .empty _ => .ok (.empty, f)
  | .flags _ items => .ok (.empty, f.apply items)
  | .literal l => return (← l.form f, f)
  | .dot span => return (← dotForm f span, f)
  | .assertion _ kind => .ok (.look (kind.look f), f)
  | .property span negated query => return (.ofSet (← propertySet f span negated query), f)
  | .shorthand span negated kind =>
    return (.ofSet (← f.close span negated (kind.set f.unicode)), f)
  | .bracketed span negated set => do
    return (.ofSet (← f.close span negated (f.fold (← set.chars f))), f)
  | .repetition _ min max greedy sub => do
    let (sub, f) ← sub.form f
    return (.repeated min max (greedy != f.swapGreed) sub, f)
  | .group _ (.capture index) sub => do
    let (sub, _) ← sub.form f
    return (.capture index sub, f)
  | .group _ (.plain items) sub => do
    let (sub, _) ← sub.form (f.apply items)
    return (sub, f)
  | .alternation _ subs => do
    let (subs, f) ← partForms f subs
    return (.choice subs, f)
  | .concat _ subs => do
    let (subs, f) ← partForms f subs
    return (.sequence subs, f)

/-- The forms of some parts, each with the flags in force behind the one before it. -/
def partForms (f : Flags) : List Ast → Except Error (List Form × Flags)
  | [] => .ok ([], f)
  | a :: subs => do
    let (form, f) ← a.form f
    let (forms, f) ← partForms f subs
    return (form :: forms, f)

end

end Descent.Pattern
