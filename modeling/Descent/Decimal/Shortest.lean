import Descent.Binary64

/-!
# The fewest digits

The fewest decimal digits that read back as a number: among the decimals that are nearer to the
number than to its neighbours, those with the fewest digits, and of these the nearest.

For one digit, for two and so on, the grid of the decimals with so many digits is laid over the
number. If any point of the grid reads back, one of the two points around the number does. Seventeen
digits are always enough.
-/

namespace Descent.Decimal

/-- What to do when the two points of a grid are equally near. -/
inductive Tie where
  /-- take the upper one -/
  | up
  /-- take the one with the even last digit -/
  | toEven
deriving DecidableEq, Repr

/-- The decimals that read back as a number, as a multiple of `1 / den`: the number, the ends of the
interval around it, and whether the ends belong to it. -/
structure Interval where
  /-- the number -/
  value : Nat
  /-- the lower end -/
  lo : Nat
  /-- the upper end -/
  hi : Nat
  /-- the denominator of all three -/
  den : Nat
  /-- do the ends read back as well? -/
  closed : Bool

namespace Interval

/-- The decimals that read back as `m · 2 ^ e`. Below a power of two the neighbour is nearer. -/
def of (m : Nat) (e : Int) : Interval :=
  let down := if m = Nat.pow 2 52 ∧ -1074 < e then 1 else 2
  let unit := Nat.pow 2 (e - 2).toNat
  ⟨4 * m * unit, (4 * m - down) * unit, (4 * m + 2) * unit, Nat.pow 2 (2 - e).toNat, m % 2 = 0⟩

/-- Does `num / den` read back? -/
def holds (i : Interval) (num den : Nat) : Bool :=
  let x := num * i.den
  let lo := i.lo * den
  let hi := i.hi * den
  if i.closed then lo ≤ x && x ≤ hi else lo < x && x < hi

/-- The decimal exponent of the first digit. -/
def exponent (i : Interval) : Int :=
  let k : Int := ((Nat.toDigits 10 i.value).length : Int) - (Nat.toDigits 10 i.den).length
  if i.den * Nat.pow 10 k.toNat ≤ i.value * Nat.pow 10 (-k).toNat then k else k - 1

/-- The point of the grid of multiples of `10 ^ p` that reads back, if one does. -/
def onGrid? (tie : Tie) (i : Interval) (p : Int) : Option Nat :=
  let up := Nat.pow 10 p.toNat
  let down := Nat.pow 10 (-p).toNat
  let below := i.value * down / (i.den * up)
  let reads (c : Nat) : Bool := i.holds (c * up) down
  let twice := 2 * (i.value * down % (i.den * up))
  let nearest :=
    if twice < i.den * up then below
    else if i.den * up < twice then below + 1
    else match tie with
      | .up => below + 1
      | .toEven => below + below % 2
  if reads below && reads (below + 1) then some nearest
  else if reads below then some below
  else if reads (below + 1) then some (below + 1)
  else none

/-- The first grid with a point that reads back, from a coarse grid to finer ones, and the point. -/
def search (tie : Tie) (i : Interval) : Nat → Int → Nat × Int
  | 0, p => ((i.onGrid? tie p).getD 0, p)
  | n + 1, p =>
    match i.onGrid? tie p with
    | some c => (c, p)
    | none => search tie i n (p - 1)

end Interval

/-- The digits without the zeros at their end, and the exponent that makes up for them. -/
def stripZeros : Nat → Nat → Int → Nat × Int
  | 0, c, p => (c, p)
  | n + 1, c, p => if c % 10 = 0 ∧ c ≠ 0 then stripZeros n (c / 10) (p + 1) else (c, p)

/-- The fewest digits for `m · 2 ^ e`, as a natural number and the decimal exponent of its last
digit. -/
def shortest (tie : Tie) (m : Nat) (e : Int) : Nat × Int :=
  if m = 0 then (0, 0)
  else
    let i := Interval.of m e
    let (c, p) := i.search tie 17 i.exponent
    stripZeros 17 c p

end Descent.Decimal
