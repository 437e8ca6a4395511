import Descent.Diagnostic
import Descent.Fault
import Descent.Proofs.Text.Boundary

/-!
# Checks are passed

Where a text is cut with offsets, or a difference of numbers is taken, something has to be true of
the numbers. In a checked computation (`Checked`) this is asked every time, and if it is not true
then the computation is broken off with a breach. A checked computation that comes to what is
computed without checks has passed them all.

This file has the checked computations with a text: an offset is brought back to a boundary one step
at a time (`Text.checkedClamp`), a text is cut (`Text.checkedSlice`), and the column of a caret is
looked for (`Diagnostic.checkedCaret`).
-/

namespace Descent

/-- Which check was not passed. -/
inductive Breach where
  /-- a token cannot be made, or a difference does not fit -/
  | fault (f : Fault)
  /-- a text is searched from an offset on that is no boundary before its end -/
  | search (offset : Nat)
  /-- a text is cut at offsets that are not in order, or that are no boundaries -/
  | slice (start stop : Nat)
deriving DecidableEq, Repr

/-- A computation with checks. -/
abbrev Checked := Except Breach

/-- A check that is passed does not hold up what comes behind it. -/
@[simp] theorem Checked.ok_bind {α β : Type} (a : α) (f : α → Checked β) :
    ((.ok a : Checked α) >>= f) = f a := rfl

/-- What is left if a number is taken away. -/
def checkedSub (a b : Nat) : Checked Nat :=
  if b ≤ a then .ok (a - b) else .error (.fault .subOverflow)

theorem checkedSub_add_left (a b : Nat) : checkedSub (a + b) b = .ok a := by
  rw [checkedSub, if_pos (Nat.le_add_left b a), Nat.add_sub_cancel]

namespace Text

/-- Go back from an offset, one by one, until there is a boundary. -/
def retreat (cs : List Char) (n : Nat) : Checked Nat :=
  if n ∈ boundaries cs then .ok n
  else match n with
    | 0 => .error (.fault .subOverflow)
    | n + 1 => retreat cs n

/-- Bring an offset back to a boundary, one step at a time. -/
def checkedClamp (text : String) (offset : Nat) : Checked Nat :=
  retreat text.toList (min offset text.utf8ByteSize)

/-- The text between two offsets, if there is one. -/
def checkedSlice (text : String) (start stop : Nat) : Checked String :=
  if start ≤ stop ∧ start ∈ boundaries text.toList ∧ stop ∈ boundaries text.toList then
    .ok (slice text start stop)
  else .error (.slice start stop)

example : checkedSlice "é" 0 1 = .error (.slice 0 1) := by decide

/-- Offsets are brought back to the same boundary if there is none between them. -/
theorem clamp_eq_clamp {cs : List Char} {m n : Nat}
    (h : ∀ p ∈ boundaries cs, p ≤ m ↔ p ≤ n) : clamp cs m = clamp cs n := by
  obtain ⟨⟨hmem, hle⟩, hgreatest⟩ := isGreatest_clamp cs m
  obtain ⟨⟨hmem', hle'⟩, hgreatest'⟩ := isGreatest_clamp cs n
  exact Nat.le_antisymm (hgreatest' ⟨hmem, (h _ hmem).1 hle⟩)
    (hgreatest ⟨hmem', (h _ hmem').2 hle'⟩)

/-- What is no boundary is brought back to where the offset before it is brought back to. -/
theorem clamp_succ_of_not_mem {cs : List Char} {n : Nat} (h : n + 1 ∉ boundaries cs) :
    clamp cs (n + 1) = clamp cs n := by
  refine clamp_eq_clamp fun p hp => ?_
  have hne : p ≠ n + 1 := by
    rintro rfl
    exact h hp
  omega

/-- Behind the end of a text there is no boundary. -/
theorem clamp_min_utf8ByteSize (text : String) (n : Nat) :
    clamp text.toList (min n text.utf8ByteSize) = clamp text.toList n := by
  refine clamp_eq_clamp fun p hp => ?_
  have hle := le_utf8ByteSize_of_mem_boundaries hp
  omega

/-- Going back does not go below zero, for zero is a boundary. -/
theorem retreat_eq (cs : List Char) (n : Nat) : retreat cs n = .ok (clamp cs n) := by
  induction n with
  | zero =>
    have hzero := zero_mem_boundaries cs
    rw [retreat, if_pos hzero, clamp_of_mem_boundaries hzero]
  | succ n ih =>
    rw [retreat]
    split
    · rename_i hmem
      rw [clamp_of_mem_boundaries hmem]
    · rename_i hmem
      rw [ih, clamp_succ_of_not_mem hmem]

theorem checkedClamp_eq (text : String) (offset : Nat) :
    checkedClamp text offset = .ok (clamp text.toList offset) := by
  rw [checkedClamp, retreat_eq, clamp_min_utf8ByteSize]

/-- A piece of a text can be cut out. -/
theorem checkedSlice_eq {text : String} {before piece after : List Char}
    (htext : text.toList = before ++ piece ++ after) :
    checkedSlice text (byteLength before) (byteLength before + byteLength piece) =
      .ok (String.ofList piece) := by
  have hstart : byteLength before ∈ boundaries text.toList :=
    mem_boundaries_iff.2 ⟨before, piece ++ after, by rw [htext, List.append_assoc], rfl⟩
  have hstop : byteLength before + byteLength piece ∈ boundaries text.toList :=
    mem_boundaries_iff.2 ⟨before ++ piece, after, htext, byteLength_append before piece⟩
  rw [checkedSlice, if_pos ⟨Nat.le_add_right _ _, hstart, hstop⟩, slice_eq htext]

end Text

namespace Diagnostic

/-- A diagnostic of the lexer or of the parser, its offset brought back to a boundary. -/
def checked (stage : Stage) (message source : String) (offset : Nat) : Checked Diagnostic := do
  return ⟨stage, message, source, ← Text.checkedClamp source offset⟩

/-- The message, the text under it, and a caret under the text. The offset has to be a boundary. -/
def checkedCaret (d : Diagnostic) : Checked String :=
  match Text.column? d.source.toList d.offset with
  | none => .error (.slice 0 d.offset)
  | some column =>
    .ok (d.message ++ ":\n\n    " ++ d.source ++ "\n    " ++
      String.ofList (List.replicate column ' ') ++ "^\n\n")

theorem checked_eq (stage : Stage) (message source : String) (offset : Nat) :
    checked stage message source offset =
      .ok ⟨stage, message, source, Text.clamp source.toList offset⟩ := by
  rw [checked, Text.checkedClamp_eq, Checked.ok_bind]
  rfl

/-- Under the text of a diagnostic there is a place for the caret, if its offset is a boundary. -/
theorem checkedCaret_eq {d : Diagnostic} (h : d.offset ∈ Text.boundaries d.source.toList) :
    d.checkedCaret = .ok d.caret := by
  have hcolumn := Text.isSome_column?_of_mem_boundaries h
  rw [checkedCaret, caret, column]
  cases hc : Text.column? d.source.toList d.offset with
  | none =>
    rw [hc] at hcolumn
    cases hcolumn
  | some column => rfl

end Diagnostic

end Descent
