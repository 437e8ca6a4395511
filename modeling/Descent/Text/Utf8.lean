/-!
# Bytes as characters

A file is a list of bytes, and what is read from it is a list of symbols: the characters that its
bytes encode in UTF-8, and between them the stray bytes that belong to no character. A text in
memory has no stray bytes.
-/

namespace Descent.Text

/-- A character, or a byte that belongs to none. -/
inductive Symbol where
  /-- a character -/
  | char (c : Char)
  /-- a byte that belongs to no character -/
  | stray (b : UInt8)
deriving DecidableEq, Repr

namespace Symbol

/-- How many bytes the symbol takes. -/
def size : Symbol → Nat
  | char c => c.utf8Size
  | stray _ => 1

/-- The character of the symbol; stray bytes look like the replacement character. -/
def look : Symbol → Char
  | char c => c
  | stray _ => '\ufffd'

end Symbol

namespace Utf8

/-- Is the byte one that continues a character? -/
def isTail (b : UInt8) : Bool := 0x80 ≤ b && b ≤ 0xBF

/-- The low six bits of a byte that continues a character. -/
def tailBits (b : UInt8) : Nat := b.toNat % 64

/-- Can the second byte of three follow the first? -/
def pairsOfThree (a b : UInt8) : Bool :=
  (a == 0xE0 && 0xA0 ≤ b && b ≤ 0xBF) || (a == 0xED && 0x80 ≤ b && b ≤ 0x9F) ||
    (0xE1 ≤ a && a ≤ 0xEF && a != 0xED && isTail b)

/-- Can the second byte of four follow the first? -/
def pairsOfFour (a b : UInt8) : Bool :=
  (a == 0xF0 && 0x90 ≤ b && b ≤ 0xBF) || (a == 0xF4 && 0x80 ≤ b && b ≤ 0x8F) ||
    (0xF1 ≤ a && a ≤ 0xF3 && isTail b)

/-- The character at the head of some bytes, with the number of bytes it takes. -/
def head? : List UInt8 → Option (Char × Nat)
  | [] => none
  | a :: rest =>
    if a < 0x80 then some (Char.ofNat a.toNat, 1)
    else if 0xC2 ≤ a ∧ a ≤ 0xDF then
      match rest with
      | b :: _ =>
        if isTail b then some (Char.ofNat (a.toNat % 32 * 64 + tailBits b), 2) else none
      | _ => none
    else if 0xE0 ≤ a ∧ a ≤ 0xEF then
      match rest with
      | b :: c :: _ =>
        if pairsOfThree a b && isTail c then
          some (Char.ofNat ((a.toNat % 16 * 64 + tailBits b) * 64 + tailBits c), 3)
        else none
      | _ => none
    else if 0xF0 ≤ a ∧ a ≤ 0xF4 then
      match rest with
      | b :: c :: d :: _ =>
        if pairsOfFour a b && isTail c && isTail d then
          let high := (a.toNat % 8 * 64 + tailBits b) * 64
          some (Char.ofNat ((high + tailBits c) * 64 + tailBits d), 4)
        else none
      | _ => none
    else none

/-- The symbols of some bytes; `skip` of them belong to the character before. -/
def decodeFrom : Nat → List UInt8 → List Symbol
  | _, [] => []
  | skip + 1, _ :: rest => decodeFrom skip rest
  | 0, b :: rest =>
    match head? (b :: rest) with
    | some (c, n) => .char c :: decodeFrom (n - 1) rest
    | none => .stray b :: decodeFrom 0 rest

/-- The symbols of some bytes. -/
def decode (bytes : List UInt8) : List Symbol := decodeFrom 0 bytes

end Utf8

end Descent.Text
