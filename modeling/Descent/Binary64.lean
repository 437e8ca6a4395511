/-!
# Binary floating point numbers

A binary64 number is a sign and a magnitude `m · 2 ^ e` with a mantissa below `2 ^ 53` and an
exponent no less than `-1074`, or it is infinite, or it is no number at all. Of all ways to write a
magnitude, the one with the least exponent is used; so equal magnitudes are written alike.

There is one way to come by a number: round a quotient of natural numbers (`Binary64.ofRatio`). The
nearest number is taken, of two the one with the even mantissa. Products and quotients are rounded
from the exact result.
-/

namespace Descent

/-- A binary floating point number of 64 bits. -/
inductive Binary64 where
  /-- no number -/
  | nan
  /-- an infinite number -/
  | infinite (negative : Bool)
  /-- the number `m · 2 ^ e` with its sign -/
  | finite (negative : Bool) (m : Nat) (e : Int)
deriving DecidableEq, Repr

namespace Binary64

/-! ## Rounding -/

/-- The quotient, to the nearest natural number; half goes to the even neighbour. -/
def roundQuotient (num den : Nat) : Nat :=
  let q := num / den
  let r := num % den
  if 2 * r < den then q
  else if den < 2 * r then q + 1
  else q + q % 2

/-- The greatest `k` with `2 ^ k ≤ num / den`. -/
def logRatio (num den : Nat) : Int :=
  let k : Int := (num.log2 : Int) - den.log2
  if den * Nat.pow 2 k.toNat ≤ num * Nat.pow 2 (-k).toNat then k else k - 1

/-- The number nearest to a quotient. -/
def ofRatio (negative : Bool) (num den : Nat) : Binary64 :=
  if num = 0 then .finite negative 0 (-1074)
  else
    let e := max (logRatio num den - 52) (-1074)
    let m := roundQuotient (num * Nat.pow 2 (-e).toNat) (den * Nat.pow 2 e.toNat)
    let (m, e) := if m = Nat.pow 2 53 then (Nat.pow 2 52, e + 1) else (m, e)
    if 971 < e then .infinite negative else .finite negative m e

/-- The number nearest to a natural number. -/
def ofNat (n : Nat) : Binary64 := ofRatio false n 1

/-- The number nearest to `digits · 10 ^ exponent`. -/
def ofDecimal (negative : Bool) (digits : Nat) (exponent : Int) : Binary64 :=
  ofRatio negative (digits * Nat.pow 10 exponent.toNat) (Nat.pow 10 (-exponent).toNat)

/-! ## Arithmetic -/

/-- The numerator of a magnitude. -/
def numerator (m : Nat) (e : Int) : Nat := m * Nat.pow 2 e.toNat

/-- The denominator of a magnitude. -/
def denominator (e : Int) : Nat := Nat.pow 2 (-e).toNat

/-- The product of a finite number and a positive one. -/
def mulPos (x : Binary64) (m : Nat) (e : Int) : Binary64 :=
  match x with
  | .finite s n f => ofRatio s (numerator n f * numerator m e) (denominator f * denominator e)
  | x => x

/-- The quotient of a finite number by a positive one. -/
def divPos (x : Binary64) (m : Nat) (e : Int) : Binary64 :=
  match x with
  | .finite s n f => ofRatio s (numerator n f * denominator e) (denominator f * numerator m e)
  | x => x

/-- The product by a positive power of ten, which is itself rounded first. -/
def mulPow10 (x : Binary64) (k : Nat) : Binary64 :=
  match ofNat (Nat.pow 10 k) with
  | .finite _ m e => x.mulPos m e
  | _ => x

/-- The quotient by a positive power of ten, which is itself rounded first. -/
def divPow10 (x : Binary64) (k : Nat) : Binary64 :=
  match ofNat (Nat.pow 10 k) with
  | .finite _ m e => x.divPos m e
  | _ => x

/-- Is the number zero? -/
def isZero : Binary64 → Bool
  | .finite _ m _ => m == 0
  | _ => false

/-- The number with the other sign. -/
def neg : Binary64 → Binary64
  | .nan => .nan
  | .infinite s => .infinite !s
  | .finite s m e => .finite (!s) m e

/-! ## Order -/

/-- The order of two magnitudes. -/
def orderMagnitude (m : Nat) (e : Int) (n : Nat) (f : Int) : Ordering :=
  compare (numerator m e * denominator f) (numerator n f * denominator e)

/-- The order of two numbers. What is no number is not comparable, and the zeros are equal. -/
def order? : Binary64 → Binary64 → Option Ordering
  | .nan, _ | _, .nan => none
  | .infinite s, .infinite t => some (compare t.toNat s.toNat)
  | .infinite s, .finite .. => some (if s then .lt else .gt)
  | .finite .., .infinite t => some (if t then .gt else .lt)
  | .finite s m e, .finite t n f =>
    if m = 0 ∧ n = 0 then some .eq
    else match s, t with
      | false, true => some .gt
      | true, false => some .lt
      | false, false => some (orderMagnitude m e n f)
      | true, true => some (orderMagnitude n f m e)

instance : BEq Binary64 where
  beq x y := order? x y == some .eq

/-! ## Reading -/

/-- The value of some decimal digits. -/
def decimalValue (digits : List Char) : Nat :=
  digits.foldl (fun n c => 10 * n + (c.toNat - '0'.toNat)) 0

/-- The sign of a text and what follows it. -/
def readSign : List Char → Bool × List Char
  | '-' :: cs => (true, cs)
  | '+' :: cs => (false, cs)
  | cs => (false, cs)

/-- The exponent that ends a text, if nothing but an exponent is left. -/
def readExponent? : List Char → Option Int
  | [] => some 0
  | c :: cs =>
    if c = 'e' ∨ c = 'E' then
      let (negative, digits) := readSign cs
      if digits.isEmpty || !digits.all Char.isDigit then none
      else
        let n : Int := decimalValue digits
        some (if negative then -n else n)
    else none

/-- The number nearest to `digits · 10 ^ exponent`, which is out of reach for exponents far from
zero. -/
def ofFarDecimal (negative : Bool) (digits : Nat) (exponent : Int) : Binary64 :=
  let size : Int := (Nat.toDigits 10 digits).length + exponent
  if digits = 0 then .finite negative 0 (-1074)
  else if 400 < size then .infinite negative
  else if size < -400 then .finite negative 0 (-1074)
  else ofDecimal negative digits exponent

/-- The number that a text writes in decimal, or by one of the words for what is not finite. -/
def read? (text : String) : Option Binary64 :=
  let (negative, cs) := readSign text.toList
  let word := String.ofList (cs.map Char.toLower)
  if word = "nan" then some .nan
  else if word = "inf" ∨ word = "infinity" then some (.infinite negative)
  else
    let whole := cs.takeWhile Char.isDigit
    let rest := cs.dropWhile Char.isDigit
    let (places, rest) := match rest with
      | '.' :: rest => (rest.takeWhile Char.isDigit, rest.dropWhile Char.isDigit)
      | rest => ([], rest)
    if whole.isEmpty && places.isEmpty then none
    else (readExponent? rest).map fun exponent =>
      ofFarDecimal negative (decimalValue (whole ++ places)) (exponent - places.length)

end Binary64

end Descent
