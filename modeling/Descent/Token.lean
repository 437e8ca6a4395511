import Descent.Fault
import Descent.Text.Quoted

/-!
# Tokens

A token is a piece of a text with its kind and its span. Spans say where diagnostics point. They
play no part when tokens are compared: a token that was put into a stream by hand is equal to one
that was cut from a text, if kind and value are the same.
-/

namespace Descent

/-- A piece of a text, classified and placed. -/
structure Token (κ : Type) where
  /-- what the piece is -/
  kind : κ
  /-- what the piece says -/
  value : String
  /-- the offset at which the piece begins, in bytes -/
  start : Nat
  /-- the offset at which the piece ends, in bytes -/
  stop : Nat
deriving Repr

namespace Token

variable {κ : Type}

/-! ## Making tokens -/

/-- A token with a given span, which may not end before it starts. -/
def make (kind : κ) (value : String) (start stop : Nat) : Except Fault (Token κ) :=
  if start ≤ stop then .ok ⟨kind, value, start, stop⟩ else .error .tokenEndsBeforeStart

/-- A token that says nothing and takes no room. -/
def bare (kind : κ) : Token κ := ⟨kind, "", 0, 0⟩

/-! ## Comparing tokens -/

/-- Is the token of the kind? -/
def isA [BEq κ] (t : Token κ) (kind : κ) : Bool := t.kind == kind

/-- Tokens are equal if their kinds and their values are. -/
instance [BEq κ] : BEq (Token κ) where
  beq t u := t.kind == u.kind && t.value == u.value

/-- Tokens are ordered by kind, and by value where the kinds are equal. -/
def order (orderKind : κ → κ → Ordering) (t u : Token κ) : Ordering :=
  (orderKind t.kind u.kind).then (compare t.value u.value)

/-- The order of tokens whose kinds may be incomparable. -/
def partialOrder (orderKind : κ → κ → Option Ordering) (t u : Token κ) : Option Ordering :=
  match orderKind t.kind u.kind with
  | none => none
  | some .eq => some (compare t.value u.value)
  | some o => some o

/-- The tokens in order, equal ones in the order in which they came. -/
def sort (orderKind : κ → κ → Ordering) (tokens : List (Token κ)) : List (Token κ) :=
  tokens.mergeSort fun t u => (order orderKind t u).isLE

/-- The greatest token, of several the last. -/
def greatest? (orderKind : κ → κ → Ordering) : List (Token κ) → Option (Token κ)
  | [] => none
  | t :: tokens =>
    some (tokens.foldl (fun best u => if (order orderKind best u).isLE then u else best) t)

/-! ## Showing tokens -/

/-- The value between single quotes. -/
def display (t : Token κ) : String := "'" ++ t.value ++ "'"

/-- The span, as its two ends. -/
def spanText (t : Token κ) : String := toString t.start ++ ".." ++ toString t.stop

/-- All that a token holds, field by field. -/
def listing (showKind : κ → String) (t : Token κ) : String :=
  "Token \x7b kind: " ++ showKind t.kind ++ ", value: " ++ Text.quoted t.value ++ ", start: " ++
    toString t.start ++ ", end: " ++ toString t.stop ++ " \x7d"

end Token

end Descent
