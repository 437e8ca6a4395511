import Descent.Diagnostic
import Descent.Token

/-!
# Cursors

A cursor stands in a stream of tokens and sees one token ahead. It holds the token that was accepted
last, the lookahead, and the tokens that wait behind the lookahead. It never goes back; but tokens
can be put in front of what is left, as if they had stood there from the start.

What is left is one list, `Cursor.stream`, and each operation has one equation that says what it
does to that list.
-/

namespace Descent

/-- A place in a stream of tokens. -/
structure Cursor (κ : Type) where
  /-- the text that diagnostics point into -/
  text : String
  /-- the token that was accepted last -/
  last : Option (Token κ)
  /-- the lookahead -/
  next : Option (Token κ)
  /-- the tokens behind the lookahead -/
  pending : List (Token κ)

namespace Cursor

variable {κ : Type}

/-- The cursor of a text before any of its tokens are there. -/
def start (text : String) : Cursor κ := ⟨text, none, none, []⟩

/-- What is left: the lookahead and the tokens behind it. -/
def stream (c : Cursor κ) : List (Token κ) := c.next.toList ++ c.pending

/-- Is there no lookahead? -/
def isExhausted (c : Cursor κ) : Bool := c.next.isNone

/-! ## Moving -/

/-- Drop the lookahead and look at the token behind it. -/
def advance (c : Cursor κ) : Cursor κ :=
  { c with next := c.pending.head?, pending := c.pending.tail }

/-- Put tokens in front of what is left. -/
def push (tokens : List (Token κ)) (c : Cursor κ) : Cursor κ :=
  advance { c with pending := tokens ++ c.stream }

/-- Accept the lookahead, if it is of the kind. -/
def accept? [BEq κ] (kind : κ) (c : Cursor κ) : Option (Token κ × Cursor κ) :=
  match c.next with
  | some t => if t.isA kind then some (t, { c with last := some t }.advance) else none
  | none => none

/-- Accept the lookahead as the first of the kinds that it is of. -/
def acceptAny? [BEq κ] (kinds : List κ) (c : Cursor κ) : Option (Token κ × Cursor κ) :=
  kinds.findSome? (c.accept? ·)

@[simp] theorem stream_start (text : String) : (start text : Cursor κ).stream = [] := rfl

theorem head?_toList_append_tail (tokens : List (Token κ)) :
    tokens.head?.toList ++ tokens.tail = tokens := by
  cases tokens <;> rfl

@[simp] theorem stream_advance (c : Cursor κ) : c.advance.stream = c.pending :=
  head?_toList_append_tail c.pending

@[simp] theorem stream_push (tokens : List (Token κ)) (c : Cursor κ) :
    (c.push tokens).stream = tokens ++ c.stream :=
  stream_advance _

/-- What is accepted is the head of the stream, and it becomes the last token. -/
theorem accept?_eq_some [BEq κ] {kind : κ} {c d : Cursor κ} {t : Token κ}
    (h : c.accept? kind = some (t, d)) :
    c.stream = t :: d.stream ∧ t.isA kind ∧ d.last = some t ∧ d.text = c.text := by
  unfold accept? at h
  split at h
  · rename_i u hu
    split at h
    · rename_i hk
      obtain ⟨rfl, rfl⟩ := Prod.mk.inj (Option.some.inj h)
      refine ⟨?_, hk, rfl, rfl⟩
      rw [stream_advance]
      simp [stream, hu]
    · cases h
  · cases h

theorem length_stream_of_acceptAny? [BEq κ] {kinds : List κ} {c d : Cursor κ} {t : Token κ}
    (h : c.acceptAny? kinds = some (t, d)) : d.stream.length < c.stream.length := by
  obtain ⟨kind, _, hk⟩ := List.exists_of_findSome?_eq_some h
  rw [(accept?_eq_some hk).1]
  exact Nat.lt_succ_self _

/-- Accept tokens of the kinds for as long as there are any. Yields the tokens. -/
def drain [BEq κ] (kinds : List κ) (c : Cursor κ) : List (Token κ) × Cursor κ :=
  match _taken : c.acceptAny? kinds with
  | none => ([], c)
  | some (t, d) =>
    let (tokens, e) := d.drain kinds
    (t :: tokens, e)
termination_by c.stream.length
decreasing_by exact length_stream_of_acceptAny? _taken

/-! ## Diagnostics -/

/-- The offset behind the last token; the beginning of the text if there is none. -/
def lastStop (c : Cursor κ) : Nat := (c.last.map Token.stop).getD 0

/-- The offset of the last token; the beginning of the text if there is none. -/
def lastStart (c : Cursor κ) : Nat := (c.last.map Token.start).getD 0

/-- A diagnostic of what comes next. It points right behind the last token. -/
def nextError (message : String) (c : Cursor κ) : Diagnostic :=
  .grammatical message c.text c.lastStop

/-- A diagnostic of the last token. -/
def lastError (message : String) (c : Cursor κ) : Diagnostic :=
  .grammatical message c.text c.lastStart

/-- The diagnostic of a lookahead that is of no use. -/
def unexpected (c : Cursor κ) : Diagnostic := c.nextError Diagnostic.unexpectedToken

/-- The diagnostic of a lookahead that was needed: it is of no use, or it is not there. -/
def mismatch (c : Cursor κ) : Diagnostic :=
  if c.isExhausted then c.nextError Diagnostic.unexpectedEnd else c.unexpected

/-- Accept the lookahead, or say why it cannot be accepted. -/
def expect [BEq κ] (kind : κ) (c : Cursor κ) : Except Diagnostic (Token κ × Cursor κ) :=
  match c.accept? kind with
  | some r => .ok r
  | none => .error c.mismatch

/-! ## Showing cursors -/

/-- A token that may be missing, field by field. -/
def tokenListing (showKind : κ → String) : Option (Token κ) → String
  | none => "None"
  | some t => "Some(" ++ t.listing showKind ++ ")"

/-- All that a cursor holds, field by field. -/
def listing (showKind : κ → String) (c : Cursor κ) : String :=
  "text: " ++ Text.quoted c.text ++ ", tokens: [" ++
    ", ".intercalate (c.pending.map (Token.listing showKind)) ++ "], token: " ++
    tokenListing showKind c.last ++ ", next: " ++ tokenListing showKind c.next

end Cursor

end Descent
