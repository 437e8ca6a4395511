import Descent.Pattern.Syntax
import Descent.Pattern.Error

/-!
# Reading patterns

A pattern is read from left to right in one pass. What has been read is described by the reader's
state: how far the pattern is read, whether blanks and comments are ignored at the moment, and which
groups have been numbered and named so far.

Every function that may go on for long is given an amount of steps, and the length of the text that
is left always is enough of them, for each step moves past a character.
-/

namespace Descent.Pattern

/-! ## The reader's state -/

/-- How far a pattern has been read. -/
structure ReaderState where
  /-- the place that has been reached -/
  pos : Position
  /-- the pattern from that place on -/
  rest : List Char
  /-- are blanks and comments ignored? -/
  extended : Bool
  /-- how many groups have been numbered -/
  captures : Nat
  /-- the names of groups, and where they stand -/
  names : List (String × Span)

/-- A step of reading, which moves on in the pattern or refuses it. -/
abbrev Reader := StateT ReaderState (Except Error)

namespace Reader

/-- Refuse the pattern. -/
def fail {α : Type} (cause : Cause) (span : Span) : Reader α :=
  throw ⟨cause, span⟩

/-- The place that has been reached. -/
def pos : Reader Position := return (← get).pos

/-- The next character. -/
def peek? : Reader (Option Char) := return (← get).rest.head?

/-- The empty part at the place that has been reached. -/
def here : Reader Span := return .point (← get).pos

/-- The part that the next character is. -/
def charSpan : Reader Span := do
  let s ← get
  match s.rest with
  | [] => return .point s.pos
  | c :: _ => return ⟨s.pos, s.pos.after c⟩

/-- Is everything read? -/
def atEnd : Reader Bool := return (← get).rest.isEmpty

/-- How many steps are enough for what is left. -/
def budget : Reader Nat := return (← get).rest.length + 1

/-- Move past one character. -/
def bump : Reader Unit :=
  modify fun s =>
    match s.rest with
    | [] => s
    | c :: rest => { s with pos := s.pos.after c, rest := rest }

/-- The place and the text behind blanks and comments. A comment goes to the end of its line. -/
def pastIgnored : Bool → Position → List Char → Position × List Char
  | _, p, [] => (p, [])
  | true, p, c :: cs => pastIgnored (c != '\n') (p.after c) cs
  | false, p, c :: cs =>
    if Unicode.whiteSpace.contains c then pastIgnored false (p.after c) cs
    else if c = '#' then pastIgnored true (p.after c) cs
    else (p, c :: cs)

/-- Move past blanks and comments, where they are ignored. -/
def skipIgnored : Reader Unit :=
  modify fun s =>
    if s.extended then
      let (p, rest) := pastIgnored false s.pos s.rest
      { s with pos := p, rest := rest }
    else s

/-- Move past one character and what is ignored behind it. Says whether something is left. -/
def advance : Reader Bool := do
  bump
  skipIgnored
  return !(← atEnd)

/-- Move past a text if the pattern goes on with it. -/
def bumpIf (text : String) : Reader Bool := do
  let s ← get
  if text.toList.isPrefixOf s.rest then
    text.toList.forM fun _ => bump
    return true
  else return false

/-- The characters up to the first that is not wanted; `next` moves past a wanted one. -/
def takeWhile (wanted : Char → Bool) (next : Reader Unit) : Nat → Reader (List Char)
  | 0 => return []
  | n + 1 => do
    match ← peek? with
    | none => return []
    | some c =>
      if wanted c then
        next
        return c :: (← takeWhile wanted next n)
      else return []

/-! ## Numbers -/

/-- The value of a digit in a number system with up to sixteen digits. -/
def digitValue (c : Char) : Nat :=
  if '0' ≤ c ∧ c ≤ '9' then c.toNat - '0'.toNat
  else if 'a' ≤ c ∧ c ≤ 'f' then c.toNat - 'a'.toNat + 10
  else c.toNat - 'A'.toNat + 10

/-- The number that digits write. -/
def numeral (base : Nat) (digits : List Char) : Nat :=
  digits.foldl (fun n c => base * n + digitValue c) 0

/-- Is the character a hexadecimal digit? -/
def isHexDigit (c : Char) : Bool :=
  ('0' ≤ c && c ≤ '9') || ('a' ≤ c && c ≤ 'f') || ('A' ≤ c && c ≤ 'F')

/-- The character with a code point, if a character has it. -/
def charAt? (n : Nat) : Option Char :=
  if n < 0xD800 ∨ (0xDFFF < n ∧ n < 0x110000) then some (Char.ofNat n) else none

/-- A decimal number, with blanks around it; or why there is none, and where. -/
def decimal : Reader (Except Error Nat) := do
  let isBlank := Unicode.whiteSpace.contains
  let _ ← takeWhile isBlank bump (← budget)
  let start ← pos
  let digits ← takeWhile Char.isDigit (discard advance) (← budget)
  let span : Span := ⟨start, ← pos⟩
  let _ ← takeWhile isBlank (discard advance) (← budget)
  if digits.isEmpty then return .error ⟨.repetitionCountDecimalEmpty, span⟩
  else
    let n := numeral 10 digits
    if n < Nat.pow 2 32 then return .ok n else return .error ⟨.decimalInvalid, span⟩

/-- Go on with a number, or refuse the pattern because there is none. -/
def demand : Except Error Nat → Reader Nat
  | .ok n => return n
  | .error e => throw e

/-! ## Escapes -/

/-- Exactly `n` hexadecimal digits. -/
def hexDigits : Nat → Reader (List Char)
  | 0 => return []
  | n + 1 => do
    match ← peek? with
    | none => fail .escapeUnexpectedEnd (← here)
    | some c =>
      if isHexDigit c then
        discard advance
        return c :: (← hexDigits n)
      else fail .escapeHexInvalidDigit (← charSpan)

/-- Hexadecimal digits up to a closing brace or the end. -/
def hexUntilBrace : Nat → Reader (List Char)
  | 0 => return []
  | n + 1 => do
    match ← peek? with
    | none | some '}' => return []
    | some c =>
      if isHexDigit c then
        discard advance
        return c :: (← hexUntilBrace n)
      else fail .escapeHexInvalidDigit (← charSpan)

/-- A code point in hexadecimal: in braces, or with a fixed count of digits. The escape began at
`start`, and the reader stands on its letter. -/
def hexLiteral (start : Position) (letter : Char) : Reader Literal := do
  let count := if letter = 'x' then 2 else if letter = 'u' then 4 else 8
  discard advance
  if (← peek?) = some '{' then
    let brace ← pos
    let first := (← charSpan).stop
    discard advance
    let digits ← hexUntilBrace (← budget)
    if ← atEnd then fail .escapeUnexpectedEnd ⟨brace, ← pos⟩
    let last ← pos
    discard advance
    if digits.isEmpty then fail .escapeHexEmpty ⟨brace, ← pos⟩
    match charAt? (numeral 16 digits) with
    | some c => return ⟨⟨start, ← pos⟩, c, false⟩
    | none => fail .escapeHexInvalid ⟨first, last⟩
  else
    let first ← pos
    let digits ← hexDigits count
    match charAt? (numeral 16 digits) with
    | some c => return ⟨⟨start, ← pos⟩, c, letter = 'x'⟩
    | none => fail .escapeHexInvalid ⟨first, ← pos⟩

/-- Split at the first place where the text goes on with `mark`. -/
def splitAt? (mark : List Char) : List Char → Option (List Char × List Char)
  | [] => none
  | c :: cs =>
    if mark.isPrefixOf (c :: cs) then some ([], (c :: cs).drop mark.length)
    else (splitAt? mark cs).map fun (a, b) => (c :: a, b)

/-- The question that the name of a property asks. -/
def propertyQuery (name : List Char) : Unicode.Property :=
  match splitAt? ['!', '='] name <|> splitAt? [':'] name <|> splitAt? ['='] name with
  | some (property, value) => .valued (String.ofList property) (String.ofList value)
  | none => .named (String.ofList name)

/-- A property of characters. The escape began at `start`, and the reader stands on its letter. -/
def property (start : Position) (letter : Char) : Reader Ast := do
  if !(← advance) then fail .escapeUnexpectedEnd (← here)
  if (← peek?) = some '{' then
    discard advance
    let name ← takeWhile (· != '}') (discard advance) (← budget)
    if ← atEnd then fail .escapeUnexpectedEnd (← here)
    bump
    return .property ⟨start, ← pos⟩ (letter = 'P') (propertyQuery name)
  else
    match ← peek? with
    | some '\\' => fail .propertyNameInvalid (← charSpan)
    | c =>
      discard advance
      return .property ⟨start, ← pos⟩ (letter = 'P')
        (.named (String.ofList c.toList))

/-- The kind of word boundary that is named in braces behind `\b`, if the braces hold a name and not
a count. The escape began at `start`, and the reader stands on the brace. -/
def namedBoundary? (start : Position) : Reader (Option Assertion) := do
  let isNameChar (c : Char) : Bool := c.isAlpha || c == '-'
  let before ← get
  if !(← advance) then fail .specialWordOrRepetitionUnexpectedEnd ⟨start, ← pos⟩
  let first ← pos
  match ← peek? with
  | some c =>
    if isNameChar c then
      let name ← takeWhile isNameChar (discard advance) (← budget)
      let last ← pos
      if (← peek?) != some '}' then fail .specialWordBoundaryUnclosed ⟨before.pos, last⟩
      bump
      match String.ofList name with
      | "start" => return some .wordStart
      | "end" => return some .wordEnd
      | "start-half" => return some .wordStartHalf
      | "end-half" => return some .wordEndHalf
      | _ => fail .specialWordBoundaryUnrecognized ⟨first, last⟩
    else
      set before
      return none
  | none => return none

/-- The characters that mean something in a pattern. -/
def isMeta (c : Char) : Bool :=
  ['\\', '.', '+', '*', '?', '(', ')', '|', '[', ']', '\x7b', '\x7d', '^', '$', '#', '&', '-',
   '~'].contains c

/-- The characters that stand for themselves behind a backslash: ASCII without letters, digits and
angle brackets. -/
def isEscapable (c : Char) : Bool :=
  isMeta c || (c.toNat < 0x80 && !c.isAlphanum && c != '<' && c != '>')

/-- What a backslash begins. The reader stands on the backslash. -/
def escape : Reader Ast := do
  let start ← pos
  bump
  match ← peek? with
  | none => fail .escapeUnexpectedEnd ⟨start, ← pos⟩
  | some c =>
    if c.isDigit then fail .unsupportedBackreference ⟨start, (← charSpan).stop⟩
    else if c = 'x' ∨ c = 'u' ∨ c = 'U' then return .literal (← hexLiteral start c)
    else if c = 'p' ∨ c = 'P' then property start c
    else
      bump
      let span : Span := ⟨start, ← pos⟩
      let char (c : Char) : Reader Ast := return .literal ⟨span, c, false⟩
      let class' (negated : Bool) (kind : Shorthand) : Reader Ast :=
        return .shorthand span negated kind
      let assertion (kind : Assertion) : Reader Ast := return .assertion span kind
      if isEscapable c then char c
      else match c with
        | 'd' => class' false .digit
        | 'D' => class' true .digit
        | 's' => class' false .space
        | 'S' => class' true .space
        | 'w' => class' false .word
        | 'W' => class' true .word
        | 'a' => char '\x07'
        | 'f' => char '\x0c'
        | 't' => char '\t'
        | 'n' => char '\n'
        | 'r' => char '\r'
        | 'v' => char '\x0b'
        | 'A' => assertion .startText
        | 'z' => assertion .endText
        | 'b' =>
          if (← peek?) = some '{' then
            match ← namedBoundary? start with
            | some kind => return .assertion ⟨start, ← pos⟩ kind
            | none => assertion .wordBoundary
          else assertion .wordBoundary
        | 'B' => assertion .notWordBoundary
        | '<' => assertion .wordStart
        | '>' => assertion .wordEnd
        | _ => fail .escapeUnrecognized span

/-! ## Classes in brackets -/

/-- The class that `[:name:]` names. -/
def posixNamed? : String → Option Posix
  | "alnum" => some .alnum
  | "alpha" => some .alpha
  | "ascii" => some .ascii
  | "blank" => some .blank
  | "cntrl" => some .cntrl
  | "digit" => some .digit
  | "graph" => some .graph
  | "lower" => some .lower
  | "print" => some .print
  | "punct" => some .punct
  | "space" => some .space
  | "upper" => some .upper
  | "word" => some .word
  | "xdigit" => some .xdigit
  | _ => none

/-- A class `[:name:]`, if one stands here. Otherwise nothing is read. -/
def posix? : Reader (Option ClassItem) := do
  let before ← get
  let start ← pos
  if !(← bumpIf "[:") then return none
  let negated ← bumpIf "^"
  let name ← takeWhile (· != ':') bump (← budget)
  match posixNamed? (String.ofList name) with
  | some kind =>
    if ← bumpIf ":]" then return some (.posix ⟨start, ← pos⟩ negated kind)
    else
      set before
      return none
  | none =>
    set before
    return none

/-- The next character behind the one the reader stands on, without what is ignored in between. The
text of a comment is not ignored here: only its mark and blanks are. -/
def peekPast : Reader (Option Char) := do
  let s ← get
  let behind := s.rest.tail
  if s.extended then return look false behind <|> behind.head?
  else return behind.head?
where
  /-- the first character that is no blank and not the mark of a first comment -/
  look : Bool → List Char → Option Char
  | _, [] => none
  | inComment, c :: cs =>
    if Unicode.whiteSpace.contains c then look inComment cs
    else if !inComment && c == '#' then look true cs
    else some c

/-- A single character or an escape in a class. -/
def classAtom : Reader Ast := do
  match ← peek? with
  | some '\\' => escape
  | some c =>
    let span ← charSpan
    bump
    return .literal ⟨span, c, false⟩
  | none => return .empty (← here)

/-- The item that an atom is. -/
def atomItem : Ast → Reader ClassItem
  | .literal l => return .literal l
  | .shorthand span negated kind => return .shorthand span negated kind
  | .property span negated query => return .property span negated query
  | a => fail .classEscapeInvalid a.span

/-- The bound of a range that an atom is. -/
def atomBound : Ast → Reader Literal
  | .literal l => return l
  | a => fail .classRangeLiteral a.span

/-- An atom or a range between two atoms. `opened` is the part that opened the class. -/
def classRange (opened : Span) : Reader ClassItem := do
  let first ← classAtom
  skipIgnored
  if ← atEnd then fail .classUnclosed opened
  let behind ← peekPast
  if (← peek?) != some '-' || behind == some ']' || behind == some '-' then atomItem first
  else
    if !(← advance) then fail .classUnclosed opened
    let last ← classAtom
    let span : Span := ⟨first.span.start, last.span.stop⟩
    let lo ← atomBound first
    let hi ← atomBound last
    if hi.char < lo.char then fail .classRangeInvalid span
    return .range span lo hi

/-- The dashes that stand for themselves at the beginning of a class, the last first. -/
def leadingDashes (start : Position) : Nat → List ClassItem → Reader (List ClassItem)
  | 0, items => return items
  | n + 1, items => do
    if (← peek?) = some '-' then
      let dash := ClassItem.literal ⟨← charSpan, '-', false⟩
      if !(← advance) then fail .classUnclosed (.point start)
      leadingDashes start n (dash :: items)
    else return items

/-- The items that were read, the last first, as one item. `start` is where they began. -/
def unionItem (start : Position) : List ClassItem → ClassItem
  | [] => .empty (.point start)
  | [item] => item
  | last :: items =>
    match items.getLast? with
    | none => last
    | some first => .union ⟨first.span.start, last.span.stop⟩ (last :: items).reverse

/-- The set that ends here: what was read last, combined with what stands before the last
operator. -/
def closeOp (lhs : Option (SetOp × ClassSet)) (rhs : ClassSet) : ClassSet :=
  match lhs with
  | none => rhs
  | some (op, lhs) => .binary ⟨lhs.span.start, rhs.span.stop⟩ op lhs rhs

/-- The operator that stands here. -/
def setOp? : Reader (Option SetOp) := do
  if ← bumpIf "&&" then return some .intersection
  else if ← bumpIf "--" then return some .difference
  else if ← bumpIf "~~" then return some .symmetricDifference
  else return none

mutual

/-- A class in brackets. The reader stands on the opening bracket. -/
def bracketed : Nat → Reader (Span × Bool × ClassSet)
  | 0 => do fail .classUnclosed (← here)
  | n + 1 => do
    let start ← pos
    if !(← advance) then fail .classUnclosed ⟨start, ← pos⟩
    let negated := (← peek?) == some '^'
    if negated then
      if !(← advance) then fail .classUnclosed ⟨start, ← pos⟩
    let first ← pos
    let dashes ← leadingDashes start n []
    let items ←
      if dashes.isEmpty && (← peek?) == some ']' then do
        let bracket := ClassItem.literal ⟨← charSpan, ']', false⟩
        if !(← advance) then fail .classUnclosed ⟨start, ← pos⟩
        pure [bracket]
      else pure dashes
    let set ← classItems n ⟨start, ← pos⟩ first items none
    return (⟨start, ← pos⟩, negated, set)

/-- The items of a class up to its closing bracket. `opened` is the part that opened the class,
`first` is where the items began that `items` holds, the last first, and `lhs` is what stands before
the last operator. -/
def classItems (fuel : Nat) (opened : Span) (first : Position) (items : List ClassItem)
    (lhs : Option (SetOp × ClassSet)) : Reader ClassSet :=
  match fuel with
  | 0 => fail .classUnclosed opened
  | n + 1 => do
    skipIgnored
    match ← peek? with
    | none => fail .classUnclosed opened
    | some '[' =>
      match ← posix? with
      | some item => classItems n opened first (item :: items) lhs
      | none =>
        let (span, negated, set) ← bracketed n
        classItems n opened first (.bracketed span negated set :: items) lhs
    | some ']' =>
      bump
      return closeOp lhs (.item (unionItem first items))
    | some _ =>
      match ← setOp? with
      | some op =>
        let set := closeOp lhs (.item (unionItem first items))
        classItems n opened (← pos) [] (some (op, set))
      | none =>
        let item ← classRange opened
        classItems n opened first (item :: items) lhs

end

/-! ## Flags and the openings of groups -/

/-- The flag that a letter stands for. -/
def flagOf? : Char → Option Flag
  | 'i' => some .ignoreCase
  | 'm' => some .multiLine
  | 's' => some .dotAll
  | 'U' => some .swapGreed
  | 'u' => some .unicode
  | 'R' => some .crlf
  | 'x' => some .extended
  | _ => none

/-- A list of flags up to a colon or a parenthesis. `items` holds those that have been read, the
last first, with the part each one is. -/
def flagItems : Nat → List (FlagItem × Span) → Reader (List FlagItem)
  | 0, _ => do fail .flagUnexpectedEnd (← here)
  | n + 1, items => do
    match ← peek? with
    | none => fail .flagUnexpectedEnd (← here)
    | some c =>
      if c = ':' ∨ c = ')' then
        match items with
        | (.negation, span) :: _ => fail .flagDanglingNegation span
        | _ => return items.reverse.map Prod.fst
      else
        let span ← charSpan
        let item ←
          if c = '-' then pure FlagItem.negation
          else match flagOf? c with
            | some f => pure (.flag f)
            | none => fail .flagUnrecognized span
        match items.reverse.find? fun other => other.1 == item with
        | some (_, earlier) =>
          if c = '-' then fail (.flagRepeatedNegation earlier) span
          else fail (.flagDuplicate earlier) span
        | none =>
          bump
          if ← atEnd then fail .flagUnexpectedEnd (← here)
          flagItems n ((item, span) :: items)

/-- Can the character stand in the name of a group? -/
def isNameChar (first : Bool) (c : Char) : Bool :=
  if first then c == '_' || Unicode.alphabetic.contains c
  else c == '_' || c == '.' || c == '[' || c == ']' || Unicode.alphanumeric.contains c

/-- The characters of a group's name up to the closing bracket or the end. -/
def nameChars : Nat → Bool → Reader (List Char)
  | 0, _ => return []
  | n + 1, first => do
    match ← peek? with
    | none | some '>' => return []
    | some c =>
      if isNameChar first c then
        bump
        return c :: (← nameChars n false)
      else fail .groupNameInvalid (← charSpan)

/-- The name of a group, with the bracket that closes it. -/
def groupName : Reader Unit := do
  let start ← pos
  let name ← nameChars (← budget) true
  let span : Span := ⟨start, ← pos⟩
  if ← atEnd then fail .groupNameUnexpectedEnd (← here)
  bump
  if name.isEmpty then fail .groupNameEmpty (.point start)
  let name := String.ofList name
  match (← get).names.lookup name with
  | some earlier => fail (.groupNameDuplicate earlier) span
  | none => modify fun s => { s with names := (name, span) :: s.names }

/-- A new number for a group. -/
def nextCapture : Reader Nat := do
  modify fun s => { s with captures := s.captures + 1 }
  return (← get).captures

/-- What a parenthesis opens: flags for the rest of the group around it, or a group. -/
inductive Opening where
  | flags (items : List FlagItem)
  | group (kind : GroupKind)

/-- The opening of a group. The reader stands on the parenthesis. -/
def opening : Reader Opening := do
  let paren ← charSpan
  bump
  skipIgnored
  if (← bumpIf "?=") || (← bumpIf "?!") || (← bumpIf "?<=") || (← bumpIf "?<!") then
    fail .unsupportedLookAround ⟨paren.start, ← pos⟩
  let inner ← here
  if (← bumpIf "?P<") || (← bumpIf "?<") then
    let index ← nextCapture
    groupName
    return .group (.capture index)
  else if ← bumpIf "?" then
    if ← atEnd then fail .groupUnclosed paren
    let items ← flagItems (← budget) []
    let closed := (← peek?) == some ')'
    bump
    if closed then
      if items.isEmpty then fail .repetitionMissing inner
      return .flags items
    else return .group (.plain items)
  else return .group (.capture (← nextCapture))

/-! ## Repetitions -/

/-- The part that is repeated: the last one that was read, if it can be repeated. -/
def repeated (items : List Ast) : Reader (Ast × List Ast) := do
  match items with
  | [] | .empty _ :: _ | .flags _ _ :: _ => fail .repetitionMissing (← here)
  | item :: items => return (item, items)

/-- A repetition by a sign. The reader stands on the sign. -/
def signRepetition (min : Nat) (max : Option Nat) (items : List Ast) : Reader (List Ast) := do
  let (item, items) ← repeated items
  bump
  let lazy ← bumpIf "?"
  return .repetition ⟨item.span.start, ← pos⟩ min max (!lazy) item :: items

/-- The counts of a counted repetition, from the first number to the closing brace. The reader
stands behind the brace that was opened at `start`. -/
def counts (start : Position) : Reader (Nat × Option Nat) := do
  let least ← decimal
  if ← atEnd then fail .repetitionCountUnclosed ⟨start, ← pos⟩
  if (← peek?) = some ',' then
    if !(← advance) then fail .repetitionCountUnclosed ⟨start, ← pos⟩
    if (← peek?) = some '}' then return (← demand least, none)
    else
      let least ← demand least
      return (least, some (← demand (← decimal)))
  else
    let count ← demand least
    return (count, some count)

/-- A repetition by counts. The reader stands on the opening brace. -/
def countedRepetition (items : List Ast) : Reader (List Ast) := do
  let start ← pos
  let (item, items) ← repeated items
  if !(← advance) then fail .repetitionCountUnclosed ⟨start, ← pos⟩
  let (min, max) ← counts start
  if (← peek?) != some '}' then fail .repetitionCountUnclosed ⟨start, ← pos⟩
  discard advance
  let lazy ← bumpIf "?"
  if max.any (· < min) then fail .repetitionCountInvalid ⟨start, ← pos⟩
  return .repetition ⟨item.span.start, ← pos⟩ min max (!lazy) item :: items

/-! ## Whole patterns -/

/-- A single character, an escape, or a sign that stands for something. -/
def atom (c : Char) : Reader Ast := do
  let span ← charSpan
  match c with
  | '\\' => escape
  | '.' => bump; return .dot span
  | '^' => bump; return .assertion span .startLine
  | '$' => bump; return .assertion span .endLine
  | c => bump; return .literal ⟨span, c, false⟩

/-- The parts of a branch, the last first, as one part. -/
def concat (span : Span) : List Ast → Ast
  | [] => .empty span
  | [item] => item
  | items => .concat span items.reverse

/-- The branches, the last first, as one part. -/
def alternation (span : Span) : List Ast → Ast
  | [] => .empty span
  | [branch] => branch
  | branches => .alternation span branches.reverse

/-- Everything up to a closing parenthesis or the end. `first` is where the first branch began,
`branches` holds the branches that have ended, the last first, `start` is where the current branch
began, and `items` holds its parts, the last first. -/
def branches (fuel : Nat) (first : Position) (ended : List Ast) (start : Position)
    (items : List Ast) : Reader Ast :=
  match fuel with
  | 0 => return .empty (.point start)
  | n + 1 => do
    skipIgnored
    match ← peek? with
    | none | some ')' =>
      let stop ← pos
      return alternation ⟨first, stop⟩ (concat ⟨start, stop⟩ items :: ended)
    | some '|' =>
      let branch := concat ⟨start, ← pos⟩ items
      bump
      branches n first (branch :: ended) (← pos) []
    | some '(' =>
      let paren ← charSpan
      match ← opening with
      | .flags flags =>
        if let some on := flagState .extended true flags then
          modify fun s => { s with extended := on }
        branches n first ended start (.flags ⟨paren.start, ← pos⟩ flags :: items)
      | .group kind =>
        let outside := (← get).extended
        if let .plain flags := kind then
          if let some on := flagState .extended true flags then
            modify fun s => { s with extended := on }
        let inside ← pos
        let sub ← branches n inside [] inside []
        if ← atEnd then fail .groupUnclosed paren
        modify fun s => { s with extended := outside }
        bump
        branches n first ended start (.group ⟨paren.start, ← pos⟩ kind sub :: items)
    | some '[' =>
      let (span, negated, set) ← bracketed (← budget)
      branches n first ended start (.bracketed span negated set :: items)
    | some '?' => branches n first ended start (← signRepetition 0 (some 1) items)
    | some '*' => branches n first ended start (← signRepetition 0 none items)
    | some '+' => branches n first ended start (← signRepetition 1 none items)
    | some '{' => branches n first ended start (← countedRepetition items)
    | some c => branches n first ended start ((← atom c) :: items)

/-- A whole pattern. -/
def whole : Reader Ast := do
  let start ← pos
  let ast ← branches (← budget) start [] start []
  if ← atEnd then return ast
  else fail .groupUnopened (← charSpan)

end Reader

/-! ## The limit on nesting -/

/-- How deeply parts may be nested. -/
def nestLimit : Nat := 250

/-- One level deeper than `depth`, unless that is too deep for the part at `span`. -/
def deeper (depth : Nat) (span : Span) : Except Error Nat :=
  if depth + 1 > nestLimit then .error ⟨.nestLimitExceeded nestLimit, span⟩ else .ok (depth + 1)

mutual

/-- Refuse an item of a class at `depth` in which parts are nested too deeply. -/
def ClassItem.checkNesting (depth : Nat) : ClassItem → Except Error Unit
  | .bracketed span _ set => do set.checkNesting (← deeper depth span)
  | .union span items => do checkNestingItems (← deeper depth span) items
  | _ => .ok ()

/-- Refuse a class at `depth` in which parts are nested too deeply. -/
def ClassSet.checkNesting (depth : Nat) : ClassSet → Except Error Unit
  | .item i => i.checkNesting depth
  | .binary span _ lhs rhs => do
    let depth ← deeper depth span
    lhs.checkNesting depth
    rhs.checkNesting depth

/-- Refuse the first of some items at `depth` in which parts are nested too deeply. -/
def checkNestingItems (depth : Nat) : List ClassItem → Except Error Unit
  | [] => .ok ()
  | i :: items => do
    i.checkNesting depth
    checkNestingItems depth items

end

mutual

/-- Refuse a part at `depth` in which parts are nested too deeply. -/
def Ast.checkNesting (depth : Nat) : Ast → Except Error Unit
  | .bracketed span _ set => do set.checkNesting (← deeper depth span)
  | .repetition span _ _ _ sub => do sub.checkNesting (← deeper depth span)
  | .group span _ sub => do sub.checkNesting (← deeper depth span)
  | .alternation span subs => do checkNestingParts (← deeper depth span) subs
  | .concat span subs => do checkNestingParts (← deeper depth span) subs
  | _ => .ok ()

/-- Refuse the first of some parts at `depth` in which parts are nested too deeply. -/
def checkNestingParts (depth : Nat) : List Ast → Except Error Unit
  | [] => .ok ()
  | a :: subs => do
    a.checkNesting depth
    checkNestingParts depth subs

end

/-! ## Reading -/

/-- The syntax of a pattern. -/
def Ast.read (pattern : List Char) : Except Error Ast := do
  let (ast, _) ← Reader.whole.run ⟨.first, pattern, false, 0, []⟩
  ast.checkNesting 0
  return ast

end Descent.Pattern
