/-!
# Sets of characters

A set of characters is kept as the places where membership changes: going up through the code
points, the first place is where the set begins, the second where its first run ends, and so on.
The places increase strictly, so a set has one form only, and the question whether a code point is
in the set is whether an odd number of places has been passed (`CharSet.inside`).

All algebra is one function, `CharSet.combine`: walk through the places of two sets together, and
write down a place where the wanted combination of the two memberships changes.

The sets hold characters, and a character is a code point that is no surrogate. `CharSet.all` has
the gap of the surrogates in it, and `CharSet.range` leaves that gap out.
-/

namespace Descent

/-- A set of characters, as the places where membership changes. -/
structure CharSet where
  /-- the code points at which membership changes, in increasing order -/
  breaks : List Nat
deriving DecidableEq, Repr, Inhabited

namespace CharSet

/-! ## Membership -/

/-- Has an odd number of the places been passed at `n`? -/
def inside : List Nat → Nat → Bool
  | [], _ => false
  | b :: rest, n => if n < b then false else !inside rest n

/-- Is the character in the set? -/
def contains (s : CharSet) (c : Char) : Bool :=
  inside s.breaks c.toNat

/-! ## Combining two sets -/

/-- Write the place `x` down if membership changes there from `now` to `next`, and go on. -/
def mark (now next : Bool) (x : Nat) (rest : Bool → List Nat) : List Nat :=
  if next = now then rest now else x :: rest next

/-- The places that are left when the first set has none any more; `a` is its membership there. -/
def combineRight (op : Bool → Bool → Bool) (a : Bool) : List Nat → Bool → Bool → List Nat
  | [], _, _ => []
  | y :: ys, b, now => mark now (op a !b) y fun now => combineRight op a ys (!b) now

/-- The places up to the first set's next place `x`; from there on `after` knows the way. -/
def combineUpTo (op : Bool → Bool → Bool) (x : Nat) (a : Bool)
    (after : List Nat → Bool → Bool → Bool → List Nat) : List Nat → Bool → Bool → List Nat
  | [], b, now => mark now (op (!a) b) x fun now => after [] (!a) b now
  | y :: ys, b, now =>
    if x < y then mark now (op (!a) b) x fun now => after (y :: ys) (!a) b now
    else if y < x then mark now (op a !b) y fun now => combineUpTo op x a after ys (!b) now
    else mark now (op (!a) !b) x fun now => after ys (!a) (!b) now

/-- The places where `op` of the two memberships changes. -/
def combine (op : Bool → Bool → Bool) : List Nat → List Nat → Bool → Bool → Bool → List Nat
  | [], ys, a, b, now => combineRight op a ys b now
  | x :: xs, ys, a, b, now =>
    combineUpTo op x a (fun ys a b now => combine op xs ys a b now) ys b now

/-- The set of what `op` wants, seen from the memberships in two sets. It should want nothing that
is in neither. -/
def zip (op : Bool → Bool → Bool) (s t : CharSet) : CharSet :=
  ⟨combine op s.breaks t.breaks false false false⟩

/-! ## The sets -/

/-- The set without characters. -/
def empty : CharSet := ⟨[]⟩

/-- All characters. -/
def all : CharSet := ⟨[0, 0xD800, 0xE000, 0x110000]⟩

/-- The characters from `lo` to `hi`, both included. -/
def range (lo hi : Char) : CharSet :=
  if hi < lo then empty
  else if lo.toNat < 0xD800 ∧ 0xE000 ≤ hi.toNat then ⟨[lo.toNat, 0xD800, 0xE000, hi.toNat + 1]⟩
  else ⟨[lo.toNat, hi.toNat + 1]⟩

/-- The set of one character. -/
def single (c : Char) : CharSet := range c c

/-- What is in one of the sets. -/
def union (s t : CharSet) : CharSet := zip (· || ·) s t

/-- What is in both sets. -/
def inter (s t : CharSet) : CharSet := zip (· && ·) s t

/-- What is in the first set alone. -/
def diff (s t : CharSet) : CharSet := zip (fun a b => a && !b) s t

/-- What is in one of the sets and not in the other. -/
def symmDiff (s t : CharSet) : CharSet := zip xor s t

/-- The characters that are not in the set. -/
def complement (s : CharSet) : CharSet := all.diff s

/-- What is in one of the sets of a list. -/
def unions (sets : List CharSet) : CharSet := sets.foldl union empty

/-- The characters of the ranges. -/
def ofRanges (ranges : List (Char × Char)) : CharSet :=
  unions (ranges.map fun r => range r.1 r.2)

/-- The characters of a list. -/
def ofList (cs : List Char) : CharSet := unions (cs.map single)

/-- Has the set no characters? -/
def isEmpty (s : CharSet) : Bool := s.breaks.isEmpty

/-- The character of a set that has no other. -/
def single? (s : CharSet) : Option Char :=
  match s.breaks with
  | [lo, hi] => if hi = lo + 1 then some (Char.ofNat lo) else none
  | _ => none

/-- Are all characters of the set in ASCII? -/
def isAscii (s : CharSet) : Bool := s.breaks.all (· ≤ 0x80)

end CharSet

end Descent
