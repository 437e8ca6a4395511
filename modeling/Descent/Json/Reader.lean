import Descent.Json.Error
import Descent.Text.Utf8

/-!
# Reading documents

A document is read symbol by symbol, and never further ahead than one symbol. A text in memory knows
how far it has been read. A file only knows how many bytes have been taken from it, among them the
one that has been looked at and not yet read: so the same error may be reported one column further
on (`Reader.failHere`, `Reader.failNext`).

An error that a reader makes of what it has read comes without a place at first. It gets the place
that has been reached when the value around it ends (`Reader.placed`).

Functions that may go on for long are given an amount of steps; twice the number of symbols that are
left always is enough.
-/

namespace Descent.Json

open Text (Symbol)

/-- Where a document comes from. -/
inductive Medium where
  /-- a text in memory -/
  | memory
  /-- a file -/
  | file
deriving DecidableEq, Repr

namespace Place

/-- The first place of a document. -/
def first : Place := ⟨1, 0⟩

/-- The place behind the first bytes of a symbol. -/
def past (p : Place) (s : Symbol) (bytes : Nat) : Place :=
  if s = .char '\n' then ⟨p.line + 1, 0⟩ else ⟨p.line, p.column + bytes⟩

end Place

/-- How far a document has been read. -/
structure Input where
  /-- where the document comes from -/
  medium : Medium
  /-- what is left of it -/
  rest : List Symbol
  /-- the place that has been reached -/
  place : Place
  /-- has the next symbol been looked at? -/
  peeked : Bool

/-- A step of reading, which moves on in the document or refuses it. -/
abbrev Reader := ExceptT Error (StateM Input)

namespace Input

/-- The place behind the first byte of what is left. -/
def placeNext (i : Input) : Place :=
  match i.rest with
  | [] => i.place
  | s :: _ => i.place.past s 1

/-- Move past the next symbol. -/
def eat (i : Input) : Input :=
  match i.rest with
  | [] => i
  | s :: rest => { i with rest := rest, place := i.place.past s s.size, peeked := false }

/-- Move past the next `n` symbols. -/
def skip : Nat → Input → Input
  | 0, i => i
  | n + 1, i => i.eat.skip n

/-- How many characters in a row pass a test. -/
def count (test : Char → Bool) (i : Input) : Nat := (i.rest.takeWhile fun s => test s.look).length

end Input

namespace Reader

/-! ## Errors and their places -/

/-- The place of an error about what has been read. -/
def here : Reader Place := do
  let i ← get
  return if i.medium = .file ∧ i.peeked then i.placeNext else i.place

/-- The place of an error about what comes next. -/
def next : Reader Place := do
  let i ← get
  return if i.medium = .file ∧ !i.peeked then i.place else i.placeNext

/-- Refuse the document for what has been read. -/
def failHere {α : Type} (cause : Cause) : Reader α := do
  throw ⟨cause, some (← here)⟩

/-- Refuse the document for what comes next. -/
def failNext {α : Type} (cause : Cause) : Reader α := do
  throw ⟨cause, some (← next)⟩

/-- Refuse what the document says, at a place that is not known yet. -/
def refuse {α : Type} (cause : Cause) : Reader α := throw ⟨cause, none⟩

/-- Read on with an outcome instead of an error. -/
def outcome {α : Type} (r : Reader α) : Reader (Except Error α) := fun i =>
  let (result, i) := r.run i
  (.ok result, i)

/-- Go on with an outcome. -/
def resume {α : Type} : Except Error α → Reader α
  | .ok a => return a
  | .error e => throw e

/-- Read, and put an error without a place to the place that has been reached. -/
def placed {α : Type} (r : Reader α) : Reader α := do
  match ← outcome r with
  | .ok a => return a
  | .error ⟨cause, none⟩ => failHere cause
  | .error e => throw e

/-- Read what stands between two marks and the closing mark. The closing mark is read even if what
stands before it is refused, which may move the place of the error. -/
def enclosed {α : Type} (body : Reader α) (close : Reader Unit) : Reader α := do
  let result ← outcome body
  let closed ← outcome close
  let a ← resume result
  resume closed
  return a

/-! ## Symbols -/

/-- How many steps are enough for what is left. -/
def budget : Reader Nat := return 2 * (← get).rest.length + 2

/-- Look at the next character. -/
def peek? : Reader (Option Char) := do
  let i ← get
  match i.rest with
  | [] => return none
  | s :: _ =>
    set { i with peeked := true }
    return some s.look

/-- Move past the next character. -/
def eat : Reader Unit := modify Input.eat

/-- Move past the next character, which must pass a test. -/
def required (missing wrong : Cause) (test : Char → Bool) : Reader Char := do
  match ← peek? with
  | none => failHere missing
  | some c =>
    if test c then
      eat
      return c
    else failNext wrong

/-- Is the character white space in a document? -/
def isSpace (c : Char) : Bool := c == ' ' || c == '\n' || c == '\t' || c == '\r'

/-- Move past characters that pass a test, and look at the next one. Yields how many there were. -/
def skipWhile (test : Char → Bool) : Reader Nat := do
  let i ← get
  let n := i.count test
  set (i.skip n)
  discard peek?
  return n

/-- Move past white space and look at the next character. -/
def token? : Reader (Option Char) := do
  discard (skipWhile isSpace)
  peek?

/-- The letters that must follow. -/
def ident (letters : String) : Reader Unit :=
  letters.toList.forM fun c => discard (required .endInValue .expectedIdent (· == c))

/-! ## Numbers -/

/-- Is the character a decimal digit? -/
def isDigit (c : Char) : Bool := '0' ≤ c && c ≤ '9'

/-- Move past the digits that come next. Yields how many there were. -/
def skipDigits : Reader Nat := skipWhile isDigit

/-- The number that begins with `n` and goes on with the digits that come next, as long as it is
less than `limit`; how many digits it has more than `n`; and whether there is a digit that makes it
too large. -/
def numberWithin (limit : Nat) : Nat → List Symbol → Nat × Nat × Bool
  | n, [] => (n, 0, false)
  | n, s :: rest =>
    if isDigit s.look then
      let m := 10 * n + (s.look.toNat - '0'.toNat)
      if m < limit then
        let (value, more, full) := numberWithin limit m rest
        (value, more + 1, full)
      else (n, 0, true)
    else (n, 0, false)

/-- Read on a number that begins with `n`, as long as it is less than `limit`. -/
def digitsWithin (limit n : Nat) : Reader (Nat × Nat × Bool) := do
  let i ← get
  let (value, read, full) := numberWithin limit n i.rest
  set (i.skip read)
  discard peek?
  return (value, read, full)

/-- The number `significand · 10 ^ exponent`. The significand is rounded first, and so is the power
of ten; below the range of powers the way leads through `10 ^ 308`. -/
def scale? (significand : Nat) (exponent : Int) : Option Binary64 :=
  let f := Binary64.ofNat significand
  if 308 < exponent then if f.isZero then some f else none
  else if 0 ≤ exponent then
    match f.mulPow10 exponent.toNat with
    | .infinite _ => none
    | x => some x
  else if -308 ≤ exponent then some (f.divPow10 (-exponent).toNat)
  else if f.isZero then some f
  else
    let g := f.divPow10 308
    if -616 ≤ exponent then some (g.divPow10 (-exponent - 308).toNat)
    else some (g.divPow10 308)

/-- The number with its sign, or the answer that there is none. -/
def float (positive : Bool) (significand : Nat) (exponent : Int) : Reader Binary64 :=
  match scale? significand exponent with
  | none => failHere .numberOutOfRange
  | some x => return if positive then x else x.neg

/-- The rest of an exponent that has got too large. -/
def farExponent (positive up : Bool) (significand : Nat) : Reader Binary64 := do
  if significand != 0 && up then failHere .numberOutOfRange
  discard skipDigits
  return .finite (!positive) 0 (-1074)

/-- The exponent that begins with the digit `c`, or nothing if it gets too large. -/
def exponentDigits (c : Char) : Reader (Option Nat) := do
  let (n, _, full) ← digitsWithin (Nat.pow 2 31) (c.toNat - '0'.toNat)
  if full then
    eat
    return none
  else return some n

/-- The exponent of a number and the number. -/
def withExponent (positive : Bool) (significand : Nat) (exponent : Int) : Reader Binary64 := do
  eat
  let up ← match ← peek? with
    | some '+' => do eat; pure true
    | some '-' => do eat; pure false
    | _ => pure true
  let c ← required .endInValue .invalidNumber isDigit
  match ← exponentDigits c with
  | none => farExponent positive up significand
  | some n => float positive significand (if up then exponent + n else exponent - n)

/-- A number whose digits are read, with an exponent if one follows. -/
def maybeExponent (positive : Bool) (significand : Nat) (exponent : Int) : Reader Binary64 := do
  match ← peek? with
  | some 'e' | some 'E' => withExponent positive significand exponent
  | _ => float positive significand exponent

/-- The places behind the point of a number and the number. Places that do not fit in 64 bits with
the digits before them are dropped. -/
def withPlaces (positive : Bool) (significand : Nat) (exponent : Int) : Reader Binary64 := do
  eat
  let (significand, read, full) ← digitsWithin (Nat.pow 2 64) significand
  if full then
    discard skipDigits
    maybeExponent positive significand (exponent - read)
  else if read = 0 then
    match ← peek? with
    | some _ => failNext .invalidNumber
    | none => failNext .endInValue
  else maybeExponent positive significand (exponent - read)

/-- A number whose digits before the point are read: `significand · 10 ^ dropped`. -/
def afterDigits (positive : Bool) (significand : Nat) (dropped : Option Nat) : Reader Number := do
  let exponent : Int := (dropped.getD 0 : Nat)
  match ← peek? with
  | some '.' => return .float (← withPlaces positive significand exponent)
  | some 'e' | some 'E' => return .float (← withExponent positive significand exponent)
  | _ =>
    if dropped.isSome then return .float (← float positive significand exponent)
    else if positive then return .natural significand
    else if significand = 0 ∨ Nat.pow 2 63 < significand then
      return .float (Binary64.ofNat significand).neg
    else return .negative (-(significand : Int))

/-- A number, from its first digit on. A zero may not be followed by digits. -/
def number (positive : Bool) : Reader Number := do
  let c ← required .endInValue .invalidNumber isDigit
  if c = '0' then
    if (← peek?).any isDigit then failNext .invalidNumber
    else afterDigits positive 0 none
  else
    let (significand, _, full) ← digitsWithin (Nat.pow 2 64) (c.toNat - '0'.toNat)
    if full then afterDigits positive significand (some (← skipDigits))
    else afterDigits positive significand none

/-! ## Strings -/

/-- The value of a hexadecimal digit. -/
def hexValue? (c : Char) : Option Nat :=
  if '0' ≤ c ∧ c ≤ '9' then some (c.toNat - '0'.toNat)
  else if 'a' ≤ c ∧ c ≤ 'f' then some (c.toNat - 'a'.toNat + 10)
  else if 'A' ≤ c ∧ c ≤ 'F' then some (c.toNat - 'A'.toNat + 10)
  else none

/-- Move past some bytes, which need not end where a symbol ends. Says whether there were enough. -/
def eatBytes : Nat → List Symbol → Place → Bool × List Symbol × Place
  | 0, rest, p => (true, rest, p)
  | _ + 1, [], p => (false, [], p)
  | n + 1, s :: rest, p =>
    if n + 1 < s.size then (true, rest, p.past s (n + 1))
    else eatBytes (n + 1 - s.size) rest (p.past s s.size)

/-- The four bytes of an escape, as a number. -/
def hexEscape : Reader Nat := do
  let i ← get
  let digits := (i.rest.take 4).map fun s => hexValue? s.look
  let (enough, rest, place) := eatBytes 4 i.rest i.place
  set { i with rest := rest, place := place, peeked := false }
  if !enough then failHere .endInString
  match digits with
  | [some a, some b, some c, some d] => return ((a * 16 + b) * 16 + c) * 16 + d
  | _ => failHere .invalidEscape

/-- Is the number the first half of a pair? -/
def isLeading (n : Nat) : Bool := 0xD800 ≤ n && n ≤ 0xDBFF

/-- Is the number the second half of a pair? -/
def isTrailing (n : Nat) : Bool := 0xDC00 ≤ n && n ≤ 0xDFFF

/-- The letter that must come next before the second half of a pair. -/
def pairLetter (c : Char) : Reader Unit :=
  discard (required .endInString .unexpectedEndOfEscape (· == c))

/-- The character that an escape by numbers gives, the second half of a pair included. -/
def numberedChar : Reader Char := do
  let n ← hexEscape
  if isTrailing n then failHere .loneSurrogate
  if isLeading n then
    pairLetter '\\'
    pairLetter 'u'
    let m ← hexEscape
    if !isTrailing m then failHere .loneSurrogate
    return Char.ofNat ((n - 0xD800) * 0x400 + (m - 0xDC00) + 0x10000)
  else return Char.ofNat n

/-- The character that a letter behind a backslash gives. -/
def letterChar? : Char → Option Char
  | '"' => some '"'
  | '\\' => some '\\'
  | '/' => some '/'
  | 'b' => some '\x08'
  | 'f' => some '\x0c'
  | 'n' => some '\n'
  | 'r' => some '\r'
  | 't' => some '\t'
  | _ => none

/-- Can the letter stand behind a backslash? -/
def isEscapeLetter (c : Char) : Bool := c == 'u' || (letterChar? c).isSome

/-- The character that an escape gives. -/
def escapedChar : Reader Char := do
  let c ← required .endInString .invalidEscape isEscapeLetter
  match letterChar? c with
  | some d => return d
  | none => numberedChar

/-- The characters of a string up to its closing quote, and the place of its first stray byte.
`read` are the characters before, the last first, and `stray` is the place of a stray byte among
them. -/
def stringChars : Nat → List Char → Option Place → Reader (List Char × Option Place)
  | 0, _, _ => failHere .endInString
  | fuel + 1, read, stray => do
    match (← get).rest with
    | [] => failHere .endInString
    | s :: _ =>
      eat
      match s with
      | .char '"' => return (read.reverse, stray)
      | .char '\\' => do stringChars fuel ((← escapedChar) :: read) stray
      | .char c =>
        if c < ' ' then failHere .controlCharacter
        else stringChars fuel (c :: read) stray
      | .stray _ => stringChars fuel (s.look :: read) (some (stray.getD (← get).place))

/-- A string, from behind its opening quote. A stray byte is reported when the string has ended. -/
def string : Reader String := do
  let (chars, stray) ← stringChars (← budget) [] none
  match stray with
  | some p => throw ⟨.invalidCodePoint, some p⟩
  | none => return String.ofList chars

/-! ## What is not asked for -/

/-- Move past a string, from behind its opening quote. Halves of pairs and stray bytes are let
pass. -/
def skipString : Nat → Reader Unit
  | 0 => failHere .endInString
  | fuel + 1 => do
    match ← peek? with
    | none => failHere .endInString
    | some '"' => eat
    | some '\\' =>
      eat
      if (← required .endInString .invalidEscape isEscapeLetter) = 'u' then discard hexEscape
      skipString fuel
    | some c =>
      if c < ' ' then failHere .controlCharacter
      else
        eat
        skipString fuel

/-- Move past the exponent of a number. -/
def skipExponent : Reader Unit := do
  eat
  match ← peek? with
  | some '+' | some '-' => eat
  | _ => pure ()
  discard (required .invalidNumber .invalidNumber isDigit)
  discard skipDigits

/-- Move past a number, from its first digit on. -/
def skipNumber : Reader Unit := do
  if (← required .invalidNumber .invalidNumber isDigit) = '0' then
    if (← peek?).any isDigit then failNext .invalidNumber
  else discard skipDigits
  match ← peek? with
  | some '.' =>
    eat
    if (← skipDigits) = 0 then failNext .invalidNumber
    match ← peek? with
    | some 'e' | some 'E' => skipExponent
    | _ => pure ()
  | some 'e' | some 'E' => skipExponent
  | _ => pure ()

/-- What a value that is moved past stands in. -/
inductive Frame where
  | list
  | object
deriving DecidableEq

mutual

/-- Move past a value and all that follows it in the frames around it. -/
def skipValue (fuel : Nat) (frames : List Frame) : Reader Unit :=
  match fuel with
  | 0 => failNext .endInValue
  | n + 1 => do
    match ← token? with
    | none => failNext .endInValue
    | some c =>
      if c = '[' then
        eat
        skipEnd n false .list frames
      else if c = '{' then
        eat
        skipEnd n false .object frames
      else
        if c = 'n' then do eat; ident "ull"
        else if c = 't' then do eat; ident "rue"
        else if c = 'f' then do eat; ident "alse"
        else if c = '-' then do eat; skipNumber
        else if isDigit c then skipNumber
        else if c = '"' then do eat; skipString (← budget)
        else failNext .expectedValue
        match frames with
        | [] => return ()
        | frame :: frames => skipEnd n true frame frames

/-- Move past the end of a frame, or past what leads to its next value and that value. A comma may
come only behind a value. -/
def skipEnd (fuel : Nat) (comma : Bool) (frame : Frame) (frames : List Frame) : Reader Unit :=
  match fuel with
  | 0 => failNext .endInValue
  | n + 1 => do
    match ← token? with
    | none =>
      match frame with
      | .list => failNext .endInList
      | .object => failNext .endInObject
    | some c =>
      if (c = ']' ∧ frame = .list) ∨ (c = '}' ∧ frame = .object) then
        eat
        match frames with
        | [] => return ()
        | frame :: frames => skipEnd n true frame frames
      else
        if comma then
          if c = ',' then eat
          else match frame with
            | .list => failNext .expectedListCommaOrEnd
            | .object => failNext .expectedObjectCommaOrEnd
        if frame = .object then
          match ← token? with
          | some '"' => eat
          | some _ => failNext .keyMustBeString
          | none => failNext .endInObject
          skipString (← budget)
          match ← token? with
          | some ':' => eat
          | some _ => failNext .expectedColon
          | none => failNext .endInObject
        skipValue n (frame :: frames)

end

/-- Move past a value. -/
def ignored : Reader Unit := do skipValue (← budget) []

/-! ## Values that are asked for -/

/-- Refuse a value that begins with `c` because it is not what was wanted. A value without parts is
read first. -/
def otherType {α : Type} (wanted : String) (c : Char) : Reader α := placed do
  if c = 'n' then
    eat
    ident "ull"
    refuse (.invalidType .null wanted)
  else if c = 't' then
    eat
    ident "rue"
    refuse (.invalidType (.boolean true) wanted)
  else if c = 'f' then
    eat
    ident "alse"
    refuse (.invalidType (.boolean false) wanted)
  else if c = '-' then
    eat
    refuse (.invalidType (.number (← number false)) wanted)
  else if isDigit c then refuse (.invalidType (.number (← number true)) wanted)
  else if c = '"' then
    eat
    refuse (.invalidType (.string (← string)) wanted)
  else if c = '[' then refuse (.invalidType .sequence wanted)
  else if c = '{' then refuse (.invalidType .map wanted)
  else failNext .expectedValue

/-- The first character of a value. -/
def valueStart : Reader Char := do
  match ← token? with
  | some c => return c
  | none => failNext .endInValue

/-- A truth value. -/
def boolValue : Reader Bool := do
  match ← valueStart with
  | 't' =>
    eat
    ident "rue"
    return true
  | 'f' =>
    eat
    ident "alse"
    return false
  | c => otherType "a boolean" c

/-- A string value. -/
def stringValue : Reader String := do
  match ← valueStart with
  | '"' =>
    eat
    string
  | c => otherType "a string" c

/-- A string value, or the value that stands for none. -/
def optionalStringValue : Reader (Option String) := do
  match ← token? with
  | some 'n' =>
    eat
    ident "ull"
    return none
  | _ => return some (← stringValue)

/-! ## Lists -/

/-- Does the list go on? `first` says that it has no elements yet. -/
def hasElement (first : Bool) : Reader Bool := do
  match ← token? with
  | none => failNext .endInList
  | some ']' => return false
  | some c =>
    if first then return true
    else if c = ',' then
      eat
      match ← token? with
      | some ']' => failNext .trailingComma
      | some _ => return true
      | none => failNext .endInValue
    else failNext .expectedListCommaOrEnd

/-- The next element of a list, if the list goes on. -/
def element? {α : Type} (first : Bool) (value : Reader α) : Reader (Option α) := do
  if ← hasElement first then return some (← value) else return none

/-- The elements of a list, from the next one on. -/
def elements {α : Type} (value : Reader α) : Nat → Bool → Reader (List α)
  | 0, _ => return []
  | fuel + 1, first => do
    match ← element? first value with
    | none => return []
    | some a => return a :: (← elements value fuel false)

/-- The end of a list. -/
def listEnd : Reader Unit := do
  match ← token? with
  | some ']' => eat
  | some ',' =>
    eat
    match ← token? with
    | some ']' => failNext .trailingComma
    | _ => failNext .trailingCharacters
  | some _ => failNext .trailingCharacters
  | none => failNext .endInList

/-- A list of values. -/
def listValue {α : Type} (value : Reader α) : Reader (List α) := do
  match ← valueStart with
  | '[' => placed do
    eat
    enclosed (do elements value (← budget) true) listEnd
  | c => otherType "a sequence" c

/-! ## Objects -/

/-- Does the object go on with a key? `first` says that it has no members yet. -/
def hasKey (first : Bool) : Reader Bool := do
  match ← token? with
  | none => failNext .endInObject
  | some '}' => return false
  | some c =>
    if first then
      if c = '"' then return true else failNext .keyMustBeString
    else if c = ',' then
      eat
      match ← token? with
      | some '"' => return true
      | some '}' => failNext .trailingComma
      | some _ => failNext .keyMustBeString
      | none => failNext .endInValue
    else failNext .expectedObjectCommaOrEnd

/-- The colon behind a key. -/
def colon : Reader Unit := do
  match ← token? with
  | some ':' => eat
  | some _ => failNext .expectedColon
  | none => failNext .endInObject

/-- The members of an object, from the next one on; `member` reads one into what has been read. -/
def members {σ : Type} (member : String → σ → Reader σ) : Nat → Bool → σ → Reader σ
  | 0, _, s => return s
  | fuel + 1, first, s => do
    if ← hasKey first then
      eat
      let key ← string
      let s ← member key s
      members member fuel false s
    else return s

/-- The value of a member that is known by name and must not come twice. -/
def field {α : Type} (name : String) (old : Option α) (value : Reader α) : Reader (Option α) := do
  if old.isSome then refuse (.duplicateField name)
  colon
  return some (← value)

/-- The value of a member that nobody asked for. -/
def unknownField : Reader Unit := do
  colon
  ignored

/-- The end of an object. -/
def objectEnd : Reader Unit := do
  match ← token? with
  | some '}' => eat
  | some ',' => failNext .trailingComma
  | some _ => failNext .trailingCharacters
  | none => failNext .endInObject

/-- A record, as a list of its fields in order or as an object. -/
def recordValue {α : Type} (wanted : String) (fields : Reader α) (object : Reader α) :
    Reader α := do
  match ← valueStart with
  | '[' => placed do
    eat
    enclosed fields listEnd
  | '{' => placed do
    eat
    enclosed object objectEnd
  | c => otherType wanted c

/-! ## Documents -/

/-- The end of a document. -/
def documentEnd : Reader Unit := do
  if (← token?).isSome then failNext .trailingCharacters

/-- Read a whole document. -/
def document {α : Type} (value : Reader α) (medium : Medium) (symbols : List Symbol) :
    Except Error α :=
  let whole : Reader α := do
    let a ← value
    documentEnd
    return a
  (whole.run ⟨medium, symbols, .first, false⟩).1

end Reader

end Descent.Json
