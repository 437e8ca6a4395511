import Descent.Pattern.Look

/-!
# The normal form of patterns

A form says what a pattern matches, with all flags worked in. Forms are built by the functions here
and nowhere else, which keep them normal:

* a sequence has no empty parts and no sequences as parts, and no two literal texts stand side by
  side in it (`Form.sequence`);
* a choice has no choices as parts, a choice between single characters or between sets is one set,
  and what all its parts begin with stands before it (`Form.choice`);
* a set of one character is a literal text (`Form.ofSet`);
* a part that matches only the empty text is repeated at most once, and a part that is taken exactly
  once is no repetition (`Form.repetition`).

The order of a choice matters, since the first part is preferred. Moving a common beginning out of a
choice keeps what matches, but where the beginning can match in several ways it changes which match
is preferred; so this is a rule of the patterns and no mere simplification.
-/

namespace Descent.Pattern

/-- What a pattern matches. -/
inductive Form where
  /-- the empty text -/
  | empty
  /-- a text, character by character -/
  | literal (text : List Char)
  /-- one character of a set -/
  | set (s : CharSet)
  /-- the empty text, at some places -/
  | look (l : Look)
  /-- a part at least `min` times and at most `max` times, as often as possible if it is greedy -/
  | repetition (min : Nat) (max : Option Nat) (greedy : Bool) (sub : Form)
  /-- a part that is remembered under a number -/
  | capture (index : Nat) (sub : Form)
  /-- one part and then the other -/
  | seq (first rest : Form)
  /-- one part, or else the other -/
  | alt (first rest : Form)
deriving DecidableEq, Repr, Inhabited

namespace Form

/-! ## Lengths -/

/-- The length of the shortest text that matches, if any does. -/
def minLength : Form → Option Nat
  | empty => some 0
  | literal text => some text.length
  | set s => if s.isEmpty then none else some 1
  | look _ => some 0
  | repetition min _ _ sub => sub.minLength.map (· * min)
  | capture _ sub => sub.minLength
  | seq a b =>
    match a.minLength, b.minLength with
    | some m, some n => some (m + n)
    | _, _ => none
  | alt a b =>
    match a.minLength, b.minLength with
    | some m, some n => some (min m n)
    | _, _ => none

/-- The length of the longest text that matches, if there is a longest one. -/
def maxLength : Form → Option Nat
  | empty => some 0
  | literal text => some text.length
  | set s => if s.isEmpty then none else some 1
  | look _ => some 0
  | repetition _ max _ sub =>
    match max, sub.maxLength with
    | some n, some m => some (m * n)
    | _, _ => none
  | capture _ sub => sub.maxLength
  | seq a b =>
    match a.maxLength, b.maxLength with
    | some m, some n => some (m + n)
    | _, _ => none
  | alt a b =>
    match a.maxLength, b.maxLength with
    | some m, some n => some (max m n)
    | _, _ => none

/-! ## Sets and literal texts -/

/-- One character of a set. -/
def ofSet (s : CharSet) : Form :=
  match s.single? with
  | some c => literal [c]
  | none => set s

/-! ## Sequences -/

/-- The parts of a sequence. Another form is its own only part, and the empty one has none. -/
def parts : Form → List Form
  | empty => []
  | seq a b => a :: parts b
  | f => [f]

/-- The sequence of some parts. -/
def ofParts : List Form → Form
  | [] => empty
  | [f] => f
  | f :: fs => seq f (ofParts fs)

/-- The parts with literal texts that stand side by side made one. -/
def joinLiterals : List Form → List Form
  | [] => []
  | literal a :: fs =>
    match joinLiterals fs with
    | literal b :: rest => literal (a ++ b) :: rest
    | rest => literal a :: rest
  | f :: fs => f :: joinLiterals fs

/-- One form after another. -/
def sequence (fs : List Form) : Form :=
  ofParts (joinLiterals (fs.flatMap parts))

/-! ## Choices -/

/-- The parts of a choice. Another form is its own only part. -/
def branches : Form → List Form
  | alt a b => a :: branches b
  | f => [f]

/-- The choice between some parts. -/
def ofBranches : List Form → Form
  | [] => set CharSet.empty
  | [f] => f
  | f :: fs => alt f (ofBranches fs)

/-- The character that a form is. -/
def char? : Form → Option Char
  | literal [c] => some c
  | _ => none

/-- The set that a form is. -/
def set? : Form → Option CharSet
  | set s => some s
  | _ => none

/-- The common beginning of two lists. -/
def commonPrefix : List Form → List Form → List Form
  | a :: as, b :: bs => if a = b then a :: commonPrefix as bs else []
  | _, _ => []

/-- The parts of a sequence that has several. -/
def seqParts? : Form → Option (List Form)
  | seq a b => some (a :: b.parts)
  | _ => none

/-- The parts that all the sequences of a choice begin with, and what follows them in each. -/
def splitCommon (fs : List Form) : Option (List Form × List Form) :=
  match fs.mapM seqParts? with
  | some (first :: rest) =>
    let common := rest.foldl commonPrefix first
    if common.isEmpty then none
    else some (common, (first :: rest).map fun parts => sequence (parts.drop common.length))
  | _ => none

/-- The choice between parts that are no choices, where all of one kind make a set. -/
def choiceOfBranches (fs : List Form) : Form :=
  match fs with
  | [] => set CharSet.empty
  | [f] => f
  | fs =>
    match fs.mapM char? with
    | some cs => ofSet (CharSet.ofList cs)
    | none =>
      match fs.mapM set? with
      | some sets => ofSet (CharSet.unions sets)
      | none => ofBranches fs

/-- One of some forms, the earlier the better. The amount of steps bounds how often a common
beginning is moved out. -/
def choiceWithin : Nat → List Form → Form
  | 0, fs => choiceOfBranches (fs.flatMap branches)
  | n + 1, fs =>
    match choiceOfBranches (fs.flatMap branches) with
    | alt a b =>
      match splitCommon (branches (alt a b)) with
      | some (common, rest) => sequence (common ++ [choiceWithin n rest])
      | none => alt a b
    | f => f

/-- One of some forms, the earlier the better. -/
def choice (fs : List Form) : Form :=
  choiceWithin ((fs.map fun f => f.parts.length).foldr (· + ·) 1) fs

/-! ## Repetitions -/

/-- A part at least `min` times and at most `max` times. -/
def repeated (min : Nat) (max : Option Nat) (greedy : Bool) (sub : Form) : Form :=
  let (min, max) :=
    if sub.maxLength = some 0 then (Nat.min min 1, some ((max.map (Nat.min · 1)).getD 1))
    else (min, max)
  if min = 0 ∧ max = some 0 then empty
  else if min = 1 ∧ max = some 1 then sub
  else repetition min max greedy sub

end Form

end Descent.Pattern
