import Descent.CharSet

/-!
# Reading packed tables

The tables are texts of words with blanks or line ends between them. A word begins with a number in
lower-case hexadecimal, and what follows the number is the word's label. Numbers are lengths or
distances, so the code points come out by adding them up.
-/

namespace Descent.Unicode.Packed

/-- The value of a hexadecimal digit. -/
def digit? (c : Char) : Option Nat :=
  if '0' ≤ c ∧ c ≤ '9' then some (c.toNat - '0'.toNat)
  else if 'a' ≤ c ∧ c ≤ 'f' then some (c.toNat - 'a'.toNat + 10)
  else none

/-- The number at the head of a word, read on from `n`, and the label after it. -/
def number (n : Nat) : List Char → Nat × List Char
  | [] => (n, [])
  | c :: cs =>
    match digit? c with
    | some d => number (16 * n + d) cs
    | none => (n, c :: cs)

/-- The words of a text; `word` holds what has been read of the current word, in reverse. -/
def splitFrom (word : List Char) : List Char → List (List Char)
  | [] => if word.isEmpty then [] else [word.reverse]
  | c :: cs =>
    if c.isWhitespace then
      if word.isEmpty then splitFrom [] cs else word.reverse :: splitFrom [] cs
    else splitFrom (c :: word) cs

/-- The words of a table. -/
def split (table : String) : List (List Char) := splitFrom [] table.toList

/-- The words of a table with their numbers read. -/
def words (table : String) : List (Nat × List Char) := (split table).map (number 0)

/-- The sums of a list of distances, the first one counted from `n`. -/
def sums (n : Nat) : List Nat → List Nat
  | [] => []
  | d :: ds => (n + d) :: sums (n + d) ds

/-- The characters of the set whose places are given by their distances. -/
def ofDistances (table : String) : CharSet :=
  CharSet.inter ⟨sums 0 ((words table).map Prod.fst)⟩ CharSet.all

/-- The places where a labelled run of code points begins or ends that `wanted` asks for; `now` says
whether the run that ends at `n` was wanted. -/
def runBreaks (wanted : List Char → Bool) (n : Nat) (now : Bool) : List (Nat × List Char) → List Nat
  | [] => if now then [n] else []
  | (len, label) :: rest =>
    CharSet.mark now (wanted label) n fun now => runBreaks wanted (n + len) now rest

/-- The characters of the runs whose label is wanted. -/
def ofRuns (table : List (Nat × List Char)) (wanted : List Char → Bool) : CharSet :=
  CharSet.inter ⟨runBreaks wanted 0 false table⟩ CharSet.all

/-- The numbers of a word that are written with `+` between them; `n` is what has been read of the
current one. -/
def distances (n : Nat) : List Char → List Nat
  | [] => [n]
  | c :: cs =>
    match digit? c with
    | some d => distances (16 * n + d) cs
    | none => n :: distances 0 cs

/-- The code points that a word gives by their distances. -/
def group (word : List Char) : List Nat := sums 0 (distances 0 word)

end Descent.Unicode.Packed
