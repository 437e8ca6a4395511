import Descent.Text.Offset
import Mathlib.Data.String.Basic
import Mathlib.Order.Bounds.Defs
import Mathlib.Order.Monotone.Defs

/-!
# Boundaries cut a text in two

A boundary is the byte length of what stands before it (`mem_boundaries_iff`). No character is
without bytes, so a boundary cuts the text in one way only (`append_inj_of_byteLength_eq`): to speak
of the text up to an offset, or from it on, it is enough to know the offset. An offset is brought
back to the greatest boundary that it does not stand before (`isGreatest_clamp`), and so one that is
a boundary is brought back nowhere (`clamp_of_mem_boundaries`), and none inside of the text by more
than three bytes (`le_clamp_add_three`).
-/

namespace Descent.Text

/-- The byte length is the one of the standard library. -/
theorem byteLength_eq_utf8Len (cs : List Char) : byteLength cs = String.utf8Len cs := by
  induction cs with
  | nil => rfl
  | cons c cs ih => rw [byteLength_cons, String.utf8Len_cons, ih, Nat.add_comm]

/-- The length of a text in bytes is that of its characters. -/
theorem byteLength_toList (text : String) : byteLength text.toList = text.utf8ByteSize := by
  rw [byteLength_eq_utf8Len, String.utf8Len_toList]

/-- The bytes of a text are those of its two parts. -/
theorem utf8ByteSize_eq {text : String} {before after : List Char}
    (h : text.toList = before ++ after) :
    text.utf8ByteSize = byteLength before + byteLength after := by
  rw [← byteLength_toList, h, byteLength_append]

/-- A text has no more characters than bytes. -/
theorem length_le_byteLength (cs : List Char) : cs.length ≤ byteLength cs := by
  induction cs with
  | nil => exact Nat.le_refl 0
  | cons c cs ih =>
    have := c.utf8Size_pos
    rw [List.length_cons, byteLength_cons]
    omega

/-- A place with something behind it is before the end of the text. -/
theorem byteLength_lt_utf8ByteSize {text : String} {before after : List Char}
    (h : text.toList = before ++ after) (hafter : after ≠ []) :
    byteLength before < text.utf8ByteSize := by
  have hsize := utf8ByteSize_eq h
  have hlength := length_le_byteLength after
  have hpos := List.length_pos_iff.2 hafter
  omega

/-- A boundary cuts a text in one way only. -/
theorem append_inj_of_byteLength_eq {a b c d : List Char} (happ : a ++ b = c ++ d)
    (hlen : byteLength a = byteLength c) : a = c ∧ b = d := by
  induction a generalizing c with
  | nil =>
    have hc : c.length ≤ 0 := by
      have := length_le_byteLength c
      rw [byteLength_nil] at hlen
      omega
    obtain rfl := List.length_eq_zero_iff.1 (Nat.le_zero.1 hc)
    exact ⟨rfl, happ⟩
  | cons x a ih =>
    cases c with
    | nil =>
      have := x.utf8Size_pos
      rw [byteLength_cons, byteLength_nil] at hlen
      omega
    | cons y c =>
      obtain ⟨rfl, hrest⟩ := List.cons.inj happ
      obtain ⟨rfl, rfl⟩ := ih hrest (Nat.add_left_cancel hlen)
      exact ⟨rfl, rfl⟩

/-! ## Boundaries -/

/-- A boundary is where a part of the text ends and the other part begins. -/
theorem mem_boundariesFrom_iff {p start : Nat} {cs : List Char} :
    p ∈ boundariesFrom start cs ↔
      ∃ before after, cs = before ++ after ∧ start + byteLength before = p := by
  induction cs generalizing start with
  | nil =>
    constructor
    · intro h
      exact ⟨[], [], rfl, (List.mem_singleton.1 h).symm⟩
    · rintro ⟨before, after, happ, rfl⟩
      obtain ⟨rfl, -⟩ := List.append_eq_nil_iff.1 happ.symm
      exact List.mem_singleton.2 rfl
  | cons c cs ih =>
    rw [boundariesFrom, List.mem_cons, ih]
    constructor
    · rintro (rfl | ⟨before, after, rfl, rfl⟩)
      · exact ⟨[], c :: cs, rfl, rfl⟩
      · exact ⟨c :: before, after, rfl, by rw [byteLength_cons, Nat.add_assoc]⟩
    · rintro ⟨before, after, happ, rfl⟩
      cases before with
      | nil => exact .inl rfl
      | cons d before =>
        obtain ⟨rfl, rfl⟩ := List.cons.inj happ
        exact .inr ⟨before, after, rfl, by rw [byteLength_cons, Nat.add_assoc]⟩

/-- The boundaries are the byte lengths of what a text begins with. -/
theorem mem_boundaries_iff {p : Nat} {cs : List Char} :
    p ∈ boundaries cs ↔ ∃ before after, cs = before ++ after ∧ byteLength before = p := by
  rw [boundaries, mem_boundariesFrom_iff]
  simp only [Nat.zero_add]

/-- There is a boundary before the first character. -/
theorem zero_mem_boundaries (cs : List Char) : 0 ∈ boundaries cs :=
  mem_boundaries_iff.2 ⟨[], cs, rfl, rfl⟩

/-- The boundaries are the start, and those of the rest behind the first character. -/
theorem mem_boundaries_cons_iff {p : Nat} {c : Char} {cs : List Char} :
    p ∈ boundaries (c :: cs) ↔ p = 0 ∨ ∃ q ∈ boundaries cs, p = c.utf8Size + q := by
  simp only [mem_boundaries_iff]
  constructor
  · rintro ⟨before, after, happ, rfl⟩
    cases before with
    | nil => exact .inl rfl
    | cons d before =>
      obtain ⟨rfl, rfl⟩ := List.cons.inj happ
      exact .inr ⟨_, ⟨before, after, rfl, rfl⟩, rfl⟩
  · rintro (rfl | ⟨q, ⟨before, after, rfl, rfl⟩, rfl⟩)
    · exact ⟨[], c :: cs, rfl, rfl⟩
    · exact ⟨c :: before, after, rfl, rfl⟩

/-- No boundary is behind the end of the text. -/
theorem le_utf8ByteSize_of_mem_boundaries {p : Nat} {text : String}
    (h : p ∈ boundaries text.toList) : p ≤ text.utf8ByteSize := by
  obtain ⟨before, after, htext, rfl⟩ := mem_boundaries_iff.1 h
  rw [utf8ByteSize_eq htext]
  exact Nat.le_add_right _ _

/-- The offset between two parts is kept. -/
theorem clamp_append_byteLength (before after : List Char) :
    clamp (before ++ after) (byteLength before) = byteLength before := by
  induction before with
  | nil =>
    cases after with
    | nil => rfl
    | cons c after => simp [clamp, c.utf8Size_pos]
  | cons c before ih =>
    rw [List.cons_append, byteLength_cons, clamp, if_neg (by omega), Nat.add_sub_cancel_left, ih]

/-- An offset that is a boundary is kept. -/
theorem clamp_of_mem_boundaries {p : Nat} {cs : List Char} (h : p ∈ boundaries cs) :
    clamp cs p = p := by
  obtain ⟨before, after, rfl, rfl⟩ := mem_boundaries_iff.1 h
  exact clamp_append_byteLength before after

/-- **An offset is brought back to the greatest boundary** that it does not stand before. -/
theorem isGreatest_clamp (cs : List Char) (n : Nat) :
    IsGreatest {p | p ∈ boundaries cs ∧ p ≤ n} (clamp cs n) := by
  induction cs generalizing n with
  | nil =>
    refine ⟨⟨zero_mem_boundaries [], Nat.zero_le n⟩, ?_⟩
    rintro p ⟨hp, -⟩
    exact Nat.le_of_eq (List.mem_singleton.1 hp)
  | cons c cs ih =>
    rw [clamp]
    split
    · rename_i hlt
      refine ⟨⟨zero_mem_boundaries _, Nat.zero_le n⟩, ?_⟩
      rintro p ⟨hp, hle⟩
      obtain rfl | ⟨q, -, rfl⟩ := mem_boundaries_cons_iff.1 hp <;> omega
    · rename_i hge
      obtain ⟨⟨hmem, hle⟩, hgreatest⟩ := ih (n - c.utf8Size)
      refine ⟨⟨mem_boundaries_cons_iff.2 (.inr ⟨_, hmem, rfl⟩), by omega⟩, ?_⟩
      rintro p ⟨hp, hple⟩
      obtain rfl | ⟨q, hq, rfl⟩ := mem_boundaries_cons_iff.1 hp
      · exact Nat.zero_le _
      · exact Nat.add_le_add_left (hgreatest ⟨hq, by omega⟩) _

/-- What an offset is moved to is a boundary. -/
theorem clamp_mem_boundaries (cs : List Char) (n : Nat) : clamp cs n ∈ boundaries cs :=
  (isGreatest_clamp cs n).1.1

/-- An offset is never moved forward. -/
theorem clamp_le (cs : List Char) (n : Nat) : clamp cs n ≤ n :=
  (isGreatest_clamp cs n).1.2

/-- The offsets that are kept are the boundaries. -/
theorem clamp_eq_self_iff {cs : List Char} {n : Nat} : clamp cs n = n ↔ n ∈ boundaries cs := by
  refine ⟨fun h => ?_, clamp_of_mem_boundaries⟩
  rw [← h]
  exact clamp_mem_boundaries cs n

/-- Of two offsets, the greater one is not brought back to a smaller boundary. -/
theorem clamp_mono (cs : List Char) : Monotone (clamp cs) := by
  intro m n hle
  have hgreatest := (isGreatest_clamp cs n).2
  exact hgreatest ⟨clamp_mem_boundaries cs m, Nat.le_trans (clamp_le cs m) hle⟩

/-- No character has more than four bytes, so the one that an offset is inside of does not begin
more than three bytes before it. -/
theorem le_clamp_add_three {cs : List Char} {n : Nat} (h : n ≤ byteLength cs) :
    n ≤ clamp cs n + 3 := by
  induction cs generalizing n with
  | nil => exact Nat.le_add_right_of_le h
  | cons c cs ih =>
    have hsize := c.utf8Size_le_four
    rw [byteLength_cons] at h
    rw [clamp]
    split
    · omega
    · have hrest : n - c.utf8Size ≤ clamp cs (n - c.utf8Size) + 3 := ih (by omega)
      omega

/-- The column of a boundary is the number of characters before it. -/
theorem column?_append_byteLength (before after : List Char) :
    column? (before ++ after) (byteLength before) = some before.length := by
  induction before with
  | nil => cases after <;> rfl
  | cons c before ih =>
    have hpos := c.utf8Size_pos
    rw [List.cons_append, byteLength_cons, column?, if_neg (by omega), Nat.add_sub_cancel_left, ih,
      Option.map_some, List.length_cons]
    · exact fun h => by omega

/-- There is a column at every boundary. -/
theorem isSome_column?_of_mem_boundaries {p : Nat} {cs : List Char} (h : p ∈ boundaries cs) :
    (column? cs p).isSome = true := by
  obtain ⟨before, after, rfl, rfl⟩ := mem_boundaries_iff.1 h
  rw [column?_append_byteLength]
  rfl

/-! ## Pieces -/

/-- The text between two offsets. -/
def slice (text : String) (start stop : Nat) : String :=
  String.Pos.Raw.extract text ⟨start⟩ ⟨stop⟩

/-- The text between two boundaries is the piece that stands there. -/
theorem slice_eq {text : String} {before piece after : List Char}
    (h : text.toList = before ++ piece ++ after) :
    slice text (byteLength before) (byteLength before + byteLength piece) =
      String.ofList piece := by
  rw [slice, ← text.ofList_toList, h]
  simp only [byteLength_eq_utf8Len]
  exact String.extract_of_valid before piece after

end Descent.Text
