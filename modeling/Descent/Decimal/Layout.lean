import Descent.Decimal.Shortest

/-!
# Layouts of numbers

A layout says how the fewest digits of a number are written down. Numbers of a middling size are
written with a point in its place and at least one digit behind it, all others with one digit before
the point and an exponent.
-/

namespace Descent.Decimal

/-- How a number is written down. -/
structure Layout where
  /-- the least exponent of the first digit that is written without an exponent -/
  least : Int
  /-- the greatest exponent of the first digit that is written without an exponent -/
  greatest : Int
  /-- is a positive exponent written with a plus sign? -/
  plus : Bool
  /-- the least number of digits of an exponent -/
  width : Nat
  /-- which of two equally near decimals is taken -/
  tie : Tie
deriving Repr

namespace Layout

/-- Numbers in listings have a point from a ten-thousandth up to sixteen digits. -/
def listing : Layout := ⟨-4, 15, false, 1, .up⟩

/-- Numbers in messages about documents have a point from a hundred-thousandth up to sixteen digits,
and an exponent has a sign and two digits at least. -/
def document : Layout := ⟨-5, 15, true, 2, .toEven⟩

/-- The digits with the point behind the digit of exponent zero. -/
def positional (digits : List Char) (exponent : Int) : List Char :=
  if exponent < 0 then
    ['0', '.'] ++ List.replicate (-exponent - 1).toNat '0' ++ digits
  else
    let whole := digits.take (exponent.toNat + 1)
    let places := digits.drop (exponent.toNat + 1)
    whole ++ List.replicate (exponent.toNat + 1 - whole.length) '0' ++ ['.'] ++
      (if places.isEmpty then ['0'] else places)

/-- The digits with the point behind the first of them, and the exponent. -/
def scientific (l : Layout) (digits : List Char) (exponent : Int) : List Char :=
  let places := digits.drop 1
  let mantissa := digits.take 1 ++ (if places.isEmpty then [] else '.' :: places)
  let sign := if exponent < 0 then ['-'] else if l.plus then ['+'] else []
  let power := Nat.toDigits 10 exponent.natAbs
  mantissa ++ ['e'] ++ sign ++ List.replicate (l.width - power.length) '0' ++ power

/-- The text of a number. -/
def text (l : Layout) : Binary64 → String
  | .nan => "NaN"
  | .infinite negative => if negative then "-inf" else "inf"
  | .finite negative m e =>
    let (c, p) := shortest l.tie m e
    let digits := Nat.toDigits 10 c
    let exponent := p + (digits.length - 1 : Nat)
    let body :=
      if c = 0 ∨ (l.least ≤ exponent ∧ exponent ≤ l.greatest) then positional digits exponent
      else l.scientific digits exponent
    String.ofList (if negative then '-' :: body else body)

end Layout

end Descent.Decimal
