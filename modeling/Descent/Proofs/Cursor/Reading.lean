import Descent.Cursor

/-!
# A cursor is a list of tokens

The lookahead and the tokens behind it are one list. If no more than the list is looked at, then a
cursor is a plain machine (`Reading`): accepting takes the head, advancing drops it, and pushing
puts tokens in front.

A cursor and its reading agree as long as the cursor is *primed*: it has a lookahead unless nothing
is left. Nothing in a cursor says so, but whatever is done to a cursor leaves it primed.
-/

namespace Descent

/-- A cursor, if no more than the list of what is left is looked at. -/
@[ext] structure Reading (κ : Type) where
  /-- the text that diagnostics point into -/
  text : String
  /-- the token that was accepted last -/
  last : Option (Token κ)
  /-- what is left -/
  stream : List (Token κ)

/-- What can be seen of a cursor. -/
@[ext] structure View (κ : Type) where
  /-- the text that diagnostics point into -/
  text : String
  /-- the token that was accepted last -/
  last : Option (Token κ)
  /-- the lookahead -/
  next : Option (Token κ)
  /-- how many tokens there are behind the lookahead -/
  pending : Nat

variable {κ : Type}

namespace Reading

/-- No tokens are there yet. -/
def start (text : String) : Reading κ := ⟨text, none, []⟩

/-- Drop the head. -/
def advance (r : Reading κ) : Reading κ := { r with stream := r.stream.tail }

/-- Put tokens in front. -/
def push (tokens : List (Token κ)) (r : Reading κ) : Reading κ :=
  { r with stream := tokens ++ r.stream }

/-- Take the head, if it is of the kind. -/
def accept? [BEq κ] (kind : κ) (r : Reading κ) : Option (Token κ × Reading κ) :=
  match r.stream with
  | [] => none
  | t :: rest => if t.kind == kind then some (t, ⟨r.text, some t, rest⟩) else none

/-- Why the head is not what was expected: it is something else, or nothing is left. -/
def mismatch (r : Reading κ) : Diagnostic :=
  let stop := match r.last with
    | none => 0
    | some t => t.stop
  match r.stream with
  | [] => .grammatical "Unexpected end of file" r.text stop
  | _ :: _ => .grammatical "Unexpected token" r.text stop

/-- What can be seen: the head, and how many tokens there are behind it. -/
def view (r : Reading κ) : View κ := ⟨r.text, r.last, r.stream.head?, r.stream.length - 1⟩

/-- The primed cursor with a reading. -/
def cursor (r : Reading κ) : Cursor κ := ⟨r.text, r.last, r.stream.head?, r.stream.tail⟩

end Reading

namespace Cursor

/-- The reading of a cursor. -/
def reading (c : Cursor κ) : Reading κ := ⟨c.text, c.last, c.stream⟩

/-- What can be seen of a cursor. -/
def view (c : Cursor κ) : View κ := ⟨c.text, c.last, c.next, c.pending.length⟩

/-- There is a lookahead unless nothing is left. -/
def Primed (c : Cursor κ) : Prop := c.next = none → c.pending = []

/-! ## What is done to a cursor leaves it primed -/

theorem primed_start (text : String) : (start text : Cursor κ).Primed := fun _ => rfl

/-- Whatever the cursor was, behind its lookahead it is primed. -/
theorem primed_advance (c : Cursor κ) : c.advance.Primed := by
  intro h
  change c.pending.tail = []
  rw [List.head?_eq_none_iff.1 h, List.tail_nil]

/-- A push looks at the first of what is left then, so it primes the cursor. -/
theorem primed_push (tokens : List (Token κ)) (c : Cursor κ) : (c.push tokens).Primed :=
  primed_advance _

/-- What is accepted is advanced over, so the cursor is primed behind it. -/
theorem primed_of_accept? [BEq κ] {kind : κ} {c d : Cursor κ} {t : Token κ}
    (h : c.accept? kind = some (t, d)) : d.Primed := by
  unfold accept? at h
  split at h
  · split at h
    · obtain ⟨-, rfl⟩ := Prod.mk.inj (Option.some.inj h)
      exact primed_advance _
    · cases h
  · cases h

/-! ## Primed cursors and their readings -/

variable {c : Cursor κ}

/-- The lookahead of a primed cursor is the first token that is left. -/
theorem Primed.next_eq (h : c.Primed) : c.next = c.stream.head? := by
  unfold stream
  cases hnext : c.next with
  | none => rw [h hnext]; rfl
  | some t => rfl

/-- What waits behind the lookahead is all that is left but the first. -/
theorem Primed.pending_eq (h : c.Primed) : c.pending = c.stream.tail := by
  unfold stream
  cases hnext : c.next with
  | none => rw [h hnext]; rfl
  | some t => rfl

/-- **A primed cursor is exhausted if and only if nothing is left.** -/
theorem Primed.next_eq_none_iff (h : c.Primed) : c.next = none ↔ c.stream = [] := by
  rw [h.next_eq, List.head?_eq_none_iff]

/-- A primed cursor with nothing left has nothing pending, so one may be subtracted from no
tokens. -/
theorem Primed.length_pending (h : c.Primed) : c.pending.length = c.stream.length - 1 := by
  rw [h.pending_eq, List.length_tail]

/-- What can be seen of a primed cursor can be told from its reading. -/
theorem Primed.view_eq (h : c.Primed) : c.view = c.reading.view := by
  rw [view, h.next_eq, h.length_pending]
  rfl

/-- A primed cursor is determined by its reading. -/
theorem Primed.cursor_reading (h : c.Primed) : c.reading.cursor = c := by
  obtain ⟨text, last, next, pending⟩ := c
  have hnext := h.next_eq
  have hpending := h.pending_eq
  simp only at hnext hpending
  rw [Reading.cursor, reading, ← hnext, ← hpending]

theorem reading_start (text : String) : (start text : Cursor κ).reading = .start text := rfl

/-- A push puts the tokens in front of the list, even if the cursor is not primed. -/
theorem reading_push (tokens : List (Token κ)) (c : Cursor κ) :
    (c.push tokens).reading = c.reading.push tokens := by
  rw [reading, stream_push]
  rfl

/-- To advance is to drop the first token of the list. -/
theorem Primed.reading_advance (h : c.Primed) : c.advance.reading = c.reading.advance := by
  rw [reading, stream_advance, h.pending_eq]
  rfl

/-- A primed cursor accepts what its list accepts, and what is left of the one is what is left of
the other. -/
theorem Primed.reading_accept? [BEq κ] (h : c.Primed) (kind : κ) :
    (c.accept? kind).map (fun (t, d) => (t, d.reading)) = c.reading.accept? kind := by
  cases hnext : c.next with
  | none =>
    have hstream := h.next_eq_none_iff.1 hnext
    simp only [accept?, hnext, Reading.accept?, reading, hstream, Option.map_none]
  | some t =>
    have hstream : c.stream = t :: c.pending := by rw [stream, hnext]; rfl
    by_cases hkind : t.isA kind
    · have hkind' : (t.kind == kind) = true := hkind
      simp only [accept?, hnext, hkind, Reading.accept?, reading, hstream, hkind', if_true,
        Option.map_some, stream_advance]
      rfl
    · have hkind' : ¬ (t.kind == kind) = true := hkind
      simp only [accept?, hnext, if_neg hkind, Reading.accept?, reading, hstream, if_neg hkind',
        Option.map_none]

/-- Whether the text ends too early is told by the list, and so is where the diagnostic points. -/
theorem Primed.mismatch_eq (h : c.Primed) : c.mismatch = c.reading.mismatch := by
  have hstop : c.lastStop = match c.last with
      | none => 0
      | some t => t.stop := by
    rw [lastStop]
    cases c.last <;> rfl
  have hnext := h.next_eq
  unfold mismatch isExhausted Reading.mismatch unexpected nextError
  rw [hstop, hnext]
  cases hstream : c.stream with
  | nil => simp only [reading, hstream]; rfl
  | cons t rest => simp only [reading, hstream]; rfl

end Cursor

namespace Reading

/-- The cursor that is made from a reading has a lookahead unless the list is empty. -/
theorem primed_cursor (r : Reading κ) : r.cursor.Primed := by
  intro h
  change r.stream.tail = []
  rw [List.head?_eq_none_iff.1 h, List.tail_nil]

/-- What is left in front of the cursor that is made from a reading is the list of the reading. -/
theorem stream_cursor (r : Reading κ) : r.cursor.stream = r.stream :=
  Cursor.head?_toList_append_tail r.stream

end Reading

end Descent
