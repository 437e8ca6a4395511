import Descent.Calculator.Kind
import Descent.Parser

/-!
# The calculator

The calculator computes with whole numbers of 64 bits. Its grammar is

* a sum is a product, followed by any number of products with `+` or `-` in front;
* a product is a factor, followed by any number of factors with `*` or `/` in front;
* a factor is a number, `-` and a factor, a sum in parentheses, or a name.

A name is an alias for some tokens, which are put into the stream in its place: an operator among
them binds as if it had been written there. They have the span of the name, so that diagnostics
point to what was written.

The functions of the grammar take an amount of steps, since an alias that leads back to itself may
keep them busy forever. The calculator itself knows no limit. To run out of steps is an outcome of
its own, `Calculator.Failure.endless`, which only says that the amount was not enough; any other
outcome is the one that there is without a limit, and so the same with every larger amount.
`Calculator.budget` is enough if no alias leads back to itself. With an alias like `100 + a` for `a`
it is not: the sum grows until it does not fit, which takes more steps than any fixed amount per
token.
-/

namespace Descent

/-- Why a calculation has no value. -/
inductive Calculator.Failure where
  /-- something is wrong with the text -/
  | diagnostic (d : Diagnostic)
  /-- a number does not fit -/
  | fault (f : Fault)
  /-- there is no end to it -/
  | endless
deriving DecidableEq, Repr

/-- A calculator: its aliases. -/
structure Calculator where
  /-- names and what they stand for, the newest first -/
  aliases : List (String × List (Calculator.Kind × String))

namespace Calculator

/-! ## Aliases -/

/-- The calculator without aliases. -/
def empty : Calculator := ⟨[]⟩

/-- The calculator with an alias, which takes the place of an older one. -/
def withAlias (name : String) (expansion : List (Kind × String)) (c : Calculator) : Calculator :=
  ⟨(name, expansion) :: c.aliases⟩

/-- What a name stands for. -/
def expansion? (c : Calculator) (name : String) : Option (List (Kind × String)) :=
  c.aliases.lookup name

/-- The number of tokens of the longest expansion. -/
def longest (c : Calculator) : Nat := (c.aliases.map (·.2.length)).foldr max 0

/-- An amount of steps for a stream of some tokens. If no alias leads back to itself, then a token
stands for at most `(c.longest + 2) ^ c.aliases.length` tokens, and no token takes more than four
steps. -/
def budget (c : Calculator) (tokens : Nat) : Nat :=
  4 * (tokens + 1024) * Nat.pow (c.longest + 2) c.aliases.length

/-! ## Numbers -/

/-- A digit as a number. -/
def digit? (c : Char) : Option Nat :=
  if '0' ≤ c ∧ c ≤ '9' then some (c.toNat - '0'.toNat) else none

/-- The number that some decimal digits stand for. Without a digit there is none. -/
def natural? (digits : List Char) : Option Nat :=
  match digits with
  | [] => none
  | _ => digits.foldlM (fun n c => (digit? c).map (10 * n + ·)) 0

/-- The whole number that a numeral stands for: ASCII digits, with a sign or without. -/
def numeral? (cs : List Char) : Option Int :=
  match cs with
  | '+' :: digits => (natural? digits).map fun n => (n : Int)
  | '-' :: digits => (natural? digits).map fun n => -(n : Int)
  | digits => (natural? digits).map fun n => (n : Int)

/-- Does the number fit in 64 bits? -/
def fits (n : Int) : Bool := -Nat.pow 2 63 ≤ n && n < Nat.pow 2 63

/-- The number that a text stands for, if it fits. -/
def number? (text : String) : Option Int := (numeral? text.toList).filter fits

/-! ## The grammar -/

/-- A calculation. It keeps count of the names that were replaced. -/
abbrev Calculation := Grammar Kind Nat Failure

open Grammar

/-- Fail with a diagnostic, made at the cursor. -/
def blame {α : Type} (diagnostic : Cursor Kind → Diagnostic) : Calculation α := do
  throw (.diagnostic (diagnostic (← cursor)))

/-- A result, if it fits. -/
def within (f : Fault) (n : Int) : Calculation Int :=
  if fits n then return n else throw (.fault f)

/-- The value of a number that was accepted. -/
def value (t : Token Kind) : Calculation Int :=
  match number? t.value with
  | some n => return n
  | none => blame (·.lastError "Number out of range")

/-- A quotient, without its fraction. -/
def quotient (a b : Int) : Calculation Int :=
  if b = 0 then blame (·.lastError "Division by zero") else within .divOverflow (a.tdiv b)

/-- Put what a name stands for in its place. -/
def expand (c : Calculator) (name : Token Kind) : Calculation Unit :=
  match c.expansion? name.value with
  | none => blame (·.lastError ("Unknown name " ++ name.display))
  | some expansion =>
    match expansion.mapM fun (kind, value) => Token.make kind value name.start name.stop with
    | .error f => throw (.fault f)
    | .ok tokens => do
      modifyMemory (· + 1)
      push tokens

mutual

/-- A sum. -/
def sum (c : Calculator) (steps : Nat) : Calculation Int :=
  match steps with
  | 0 => throw .endless
  | n + 1 => do c.sumFrom n (← c.product n)

/-- What is added to a value. -/
def sumFrom (c : Calculator) (steps : Nat) (v : Int) : Calculation Int :=
  match steps with
  | 0 => throw .endless
  | n + 1 => do
    if (← accept? .plus).isSome then
      c.sumFrom n (← within .addOverflow (v + (← c.product n)))
    else if (← accept? .minus).isSome then
      c.sumFrom n (← within .subOverflow (v - (← c.product n)))
    else return v

/-- A product. -/
def product (c : Calculator) (steps : Nat) : Calculation Int :=
  match steps with
  | 0 => throw .endless
  | n + 1 => do c.productFrom n (← c.factor n)

/-- What a value is multiplied with. -/
def productFrom (c : Calculator) (steps : Nat) (v : Int) : Calculation Int :=
  match steps with
  | 0 => throw .endless
  | n + 1 => do
    if (← accept? .star).isSome then
      c.productFrom n (← within .mulOverflow (v * (← c.factor n)))
    else if (← accept? .slash).isSome then
      c.productFrom n (← quotient v (← c.factor n))
    else return v

/-- A factor. -/
def factor (c : Calculator) (steps : Nat) : Calculation Int :=
  match steps with
  | 0 => throw .endless
  | n + 1 => do
    if let some t ← accept? .number then value t
    else if (← accept? .minus).isSome then within .negOverflow (-(← c.factor n))
    else if (← accept? .leftParen).isSome then
      let v ← c.sum n
      match ← expect .rightParen with
      | .ok _ => return v
      | .error d => throw (.diagnostic d)
    else if let some t ← accept? .ident then
      c.expand t
      c.factor n
    else blame Cursor.mismatch

end

/-- A sum that is given an amount of steps, and nothing behind it. -/
def wholeWithin (c : Calculator) (steps : Nat) : Calculation Int := do
  let v ← c.sum steps
  if (← cursor).isExhausted then return v
  else blame Cursor.unexpected

/-- A sum, and nothing behind it. It is given the budget of the tokens that are there. -/
def whole (c : Calculator) : Calculation Int := do
  c.wholeWithin (c.budget (← cursor).stream.length)

/-! ## Calculating -/

/-- Calculate the value of a text. -/
def evaluate (c : Calculator) (text : String) : Calculation Int :=
  parse .diagnostic text c.whole

/-- Calculate the value of a text, with an amount of steps. -/
def evaluateWithin (c : Calculator) (steps : Nat) (text : String) : Calculation Int :=
  parse .diagnostic text (c.wholeWithin steps)

/-- How a calculation ended. -/
structure Outcome where
  /-- the value, or why there is none -/
  result : Except Failure Int
  /-- the cursor -/
  cursor : Cursor Kind
  /-- how many names have been replaced since the calculator was made -/
  expansions : Nat

/-- Make calculations one after the other, with one parser. A calculation that fails is followed by
the next one. -/
def inTurn : List (Calculation Int) → StateM (Parser Kind × Nat) (List Outcome)
  | [] => return []
  | calculation :: calculations => do
    let result ← calculation.run
    let (p, expansions) ← get
    return ⟨result, p.cursor, expansions⟩ :: (← inTurn calculations)

/-- Calculate the values of texts, one after the other, with one parser. -/
def outcomes (c : Calculator) (texts : List String) :
    StateM (Parser Kind × Nat) (List Outcome) :=
  inTurn (texts.map c.evaluate)

/-- Calculate the values of texts with a new parser. Yields how the calculations ended, and the
trace. -/
def run (c : Calculator) (texts : List String) : List Outcome × List Event :=
  let (outcomes, p, _) := (c.outcomes texts).run (.new lexer, 0)
  (outcomes, p.trace.toList)

end Calculator

end Descent
