import Descent.Text.Quoted
import Descent.Decimal.Layout

/-!
# Errors in documents

A document is refused because it is no JSON, or because it says something else than what was asked
for. An error has a place in the document, but for errors of reading the file itself.
-/

namespace Descent.Json

/-- A number in a document. Whole numbers that fit in 64 bits are kept exactly. -/
inductive Number where
  /-- a whole number that is not negative -/
  | natural (n : Nat)
  /-- a negative whole number -/
  | negative (n : Int)
  /-- any other number, rounded -/
  | float (x : Binary64)
deriving DecidableEq, Repr

/-- What a document says instead of what was asked for. -/
inductive Got where
  | null
  | boolean (b : Bool)
  | number (n : Number)
  | string (s : String)
  | sequence
  | map
deriving DecidableEq, Repr

/-- Why a document is refused. -/
inductive Cause where
  | endInList
  | endInObject
  | endInString
  | endInValue
  | expectedColon
  | expectedListCommaOrEnd
  | expectedObjectCommaOrEnd
  | expectedIdent
  | expectedValue
  | invalidEscape
  | invalidNumber
  | numberOutOfRange
  | invalidCodePoint
  | controlCharacter
  | keyMustBeString
  | loneSurrogate
  | unexpectedEndOfEscape
  | trailingComma
  | trailingCharacters
  /-- a value of another type than wanted -/
  | invalidType (got : Got) (wanted : String)
  /-- a list with too few elements -/
  | invalidLength (length : Nat) (wanted : String)
  /-- an object without a member that it must have -/
  | missingField (name : String)
  /-- an object with a member twice -/
  | duplicateField (name : String)
  /-- the file could not be read -/
  | unreadable (reason : String)
deriving DecidableEq, Repr

namespace Got

/-- What it says, in words. -/
def text : Got → String
  | null => "null"
  | boolean b => "boolean \x60" ++ toString b ++ "\x60"
  | number (.natural n) => "integer \x60" ++ toString n ++ "\x60"
  | number (.negative n) => "integer \x60" ++ toString n ++ "\x60"
  | number (.float x) => "floating point \x60" ++ Decimal.Layout.document.text x ++ "\x60"
  | string s => "string " ++ Text.quoted s
  | sequence => "sequence"
  | map => "map"

end Got

namespace Cause

/-- The cause in words. -/
def text : Cause → String
  | endInList => "EOF while parsing a list"
  | endInObject => "EOF while parsing an object"
  | endInString => "EOF while parsing a string"
  | endInValue => "EOF while parsing a value"
  | expectedColon => "expected \x60:\x60"
  | expectedListCommaOrEnd => "expected \x60,\x60 or \x60]\x60"
  | expectedObjectCommaOrEnd => "expected \x60,\x60 or \x60\x7d\x60"
  | expectedIdent => "expected ident"
  | expectedValue => "expected value"
  | invalidEscape => "invalid escape"
  | invalidNumber => "invalid number"
  | numberOutOfRange => "number out of range"
  | invalidCodePoint => "invalid unicode code point"
  | controlCharacter => "control character (\\u0000-\\u001F) found while parsing a string"
  | keyMustBeString => "key must be a string"
  | loneSurrogate => "lone leading surrogate in hex escape"
  | unexpectedEndOfEscape => "unexpected end of hex escape"
  | trailingComma => "trailing comma"
  | trailingCharacters => "trailing characters"
  | invalidType got wanted => "invalid type: " ++ got.text ++ ", expected " ++ wanted
  | invalidLength length wanted =>
    "invalid length " ++ toString length ++ ", expected " ++ wanted
  | missingField name => "missing field \x60" ++ name ++ "\x60"
  | duplicateField name => "duplicate field \x60" ++ name ++ "\x60"
  | unreadable reason => reason

end Cause

/-- A place in a document. -/
structure Place where
  /-- the line, from one -/
  line : Nat
  /-- the number of bytes before the place on its line -/
  column : Nat
deriving DecidableEq, Repr

/-- A document's error: why, and where. -/
structure Error where
  /-- why the document is refused -/
  cause : Cause
  /-- the place, if it is known -/
  place : Option Place
deriving DecidableEq, Repr

namespace Error

/-- The error in words. -/
def message (e : Error) : String :=
  match e.place with
  | none => e.cause.text
  | some p =>
    e.cause.text ++ " at line " ++ toString p.line ++ " column " ++ toString p.column

end Error

end Descent.Json
