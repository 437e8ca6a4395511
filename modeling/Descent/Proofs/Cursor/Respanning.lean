import Descent.Proofs.Lexer.Stretches
import Descent.Proofs.Parser.Diagnostics

/-!
# Cursors do not look at spans

Tokens may be given other places, all in the same way, and be taken for the tokens of another text.
A cursor that stands in them does what it did (`Cursor.accept?_respan`, `Cursor.push_respan`): the
tokens that it accepts have the same kinds and values, and it has something to complain about when
it had before. Only the offsets of the diagnostics are those of the new places.
-/

namespace Descent

open Text (Stretch)

variable {κ : Type} {place : Stretch → Stretch} {text : String}

/-- The token at another place. -/
def Token.respan (place : Stretch → Stretch) (t : Token κ) : Token κ :=
  ⟨t.kind, t.value, (place t.stretch).start, (place t.stretch).stop⟩

/-- The place of a span is a span, and of what is no span it is none. -/
def Text.Stretch.Keeps (place : Stretch → Stretch) : Prop :=
  ∀ s, (place s).start ≤ (place s).stop ↔ s.start ≤ s.stop

/-- The cursor in another text, whose tokens have other places. -/
def Cursor.respan (place : Stretch → Stretch) (text : String) (c : Cursor κ) : Cursor κ :=
  ⟨text, c.last.map (Token.respan place), c.next.map (Token.respan place),
    c.pending.map (Token.respan place)⟩

namespace Token

@[simp] theorem value_respan (t : Token κ) : (t.respan place).value = t.value := rfl

@[simp] theorem display_respan (t : Token κ) : (t.respan place).display = t.display := rfl

/-- A token can be made at the new place if it could be made at the old. -/
theorem make_respan (hplace : Stretch.Keeps place) (kind : κ) (value : String) (s : Stretch) :
    make kind value (place s).start (place s).stop =
      (make kind value s.start s.stop).map (respan place) := by
  by_cases hle : s.start ≤ s.stop
  · rw [make, make, if_pos hle, if_pos ((hplace s).2 hle)]
    rfl
  · rw [make, make, if_neg hle, if_neg (mt (hplace s).1 hle)]
    rfl

/-- The same for many tokens that are made at one place. -/
theorem mapM_make_respan (hplace : Stretch.Keeps place) (s : Stretch) (items : List (κ × String)) :
    items.mapM (fun item => make item.1 item.2 (place s).start (place s).stop) =
      (items.mapM fun item => make item.1 item.2 s.start s.stop).map (List.map (respan place)) := by
  induction items with
  | nil => rfl
  | cons item items ih =>
    rw [List.mapM_cons, List.mapM_cons, ih, make_respan hplace]
    cases make item.1 item.2 s.start s.stop with
    | error f => rfl
    | ok t => cases items.mapM fun item => make item.1 item.2 s.start s.stop <;> rfl

end Token

namespace Cursor

theorem isExhausted_respan (c : Cursor κ) :
    (c.respan place text).isExhausted = c.isExhausted :=
  Option.isNone_map ..

theorem stream_respan (c : Cursor κ) :
    (c.respan place text).stream = c.stream.map (Token.respan place) := by
  rw [stream, stream, List.map_append, respan, Option.toList_map]

theorem advance_respan (c : Cursor κ) :
    (c.respan place text).advance = c.advance.respan place text := by
  rw [advance, advance, respan, respan, List.head?_map, List.map_tail]

theorem push_respan (tokens : List (Token κ)) (c : Cursor κ) :
    (c.respan place text).push (tokens.map (Token.respan place)) =
      (c.push tokens).respan place text := by
  rw [push, push, ← advance_respan, stream_respan, ← List.map_append]
  rfl

/-- What is accepted is the same token. -/
theorem accept?_respan [BEq κ] (kind : κ) (c : Cursor κ) :
    (c.respan place text).accept? kind =
      (c.accept? kind).map fun (t, d) => (t.respan place, d.respan place text) := by
  obtain ⟨_, last, next, pending⟩ := c
  cases next with
  | none => rfl
  | some t =>
    by_cases hkind : t.isA kind
    · have hrespan : (t.respan place).isA kind := hkind
      simp only [accept?, respan, Option.map_some, hkind, hrespan, if_true]
      exact congrArg (fun d => some (t.respan place, d))
        (advance_respan ⟨_, some t, some t, pending⟩)
    · have hrespan : ¬ (t.respan place).isA kind := hkind
      simp only [accept?, respan, Option.map_some, hkind, hrespan]
      rfl

/-- What is not accepted is complained about in the same way. -/
theorem exists_mismatch_respan (place : Stretch → Stretch) (text : String) (c : Cursor κ) :
    ∃ complaint : Complaint, c.mismatch = c.complain complaint ∧
      (c.respan place text).mismatch = (c.respan place text).complain complaint := by
  rw [mismatch, mismatch, isExhausted_respan]
  cases c.isExhausted with
  | true => exact ⟨.next Diagnostic.unexpectedEnd, rfl, rfl⟩
  | false => exact ⟨.unexpected, rfl, rfl⟩

end Cursor

end Descent
