import Descent.Proofs.Diagnostic.Caret
import Descent.Proofs.Text.ByteOrder
import Descent.Proofs.Text.Checked
import Descent.Text.Utf8

/-!
# An offset goes back by three bytes at most

To bring an offset back to a boundary it is enough to look at bytes. The bytes that continue a
character are told from the ones that begin one, so the byte at an offset says whether there is a
boundary (`Text.isBoundary_bytes_iff`), and where there is none the way back goes on to the byte
before (`Text.walkBack`). As no character has more than four bytes it comes to an end after three
steps at most, and not below zero, at the boundary that diagnostics have for their offset
(`Text.exists_walkClamp_eq`).

That boundary is the greatest one that the offset does not stand before. So a boundary is kept as it
is, a greater offset never gets a smaller boundary, and the diagnostic that is made again with the
offset it already holds is the same one (`Diagnostic.offset_greatest_boundary`).
-/

namespace Descent

namespace Text

/-! ## Boundaries of bytes -/

namespace Utf8

/-- Does a character begin at the offset, or do the bytes end there? At the start that is so, and
behind it only the byte at the offset is looked at. -/
def isBoundary (bytes : List UInt8) (n : Nat) : Bool :=
  n == 0 ||
    match bytes[n]? with
    | some b => !isTail b
    | none => n == bytes.length

theorem isTail_ofNat {n : Nat} (h : n < 256) :
    isTail (UInt8.ofNat n) = (decide (0x80 ≤ n) && decide (n ≤ 0xBF)) := by
  have hbyte : (UInt8.ofNat n).toNat = n := by rw [UInt8.toNat_ofNat', Nat.mod_eq_of_lt h]
  simp [isTail, UInt8.le_iff_toNat_le, hbyte]

theorem isTail_low (n : Nat) : isTail (UInt8.ofNat (n % 64 + 128)) = true := by
  rw [isTail_ofNat (by omega), Bool.and_eq_true, decide_eq_true_eq, decide_eq_true_eq]
  omega

theorem isTail_eq_false {n : Nat} (hbyte : n < 256) (h : n < 0x80 ∨ 0xBF < n) :
    isTail (UInt8.ofNat n) = false := by
  rw [isTail_ofNat hbyte, Bool.and_eq_false_iff, decide_eq_false_iff_not, decide_eq_false_iff_not]
  omega

/-- The first byte of a character continues none, and the other ones do. -/
theorem exists_encode_eq_cons (c : Char) :
    ∃ b bs, String.utf8EncodeChar c = b :: bs ∧ isTail b = false ∧ ∀ t ∈ bs, isTail t = true := by
  have hlt : c.val.toNat < 0x110000 := by
    rcases c.valid with h | h <;> omega
  simp only [String.utf8EncodeChar]
  -- one case for each number of bytes
  split_ifs
  all_goals
    refine ⟨_, _, rfl, isTail_eq_false (by omega) (by omega), ?_⟩
    simp only [List.forall_mem_cons, isTail_low, List.not_mem_nil, false_implies, implies_true,
      and_self]

/-- The bytes of a text do not begin with one that continues a character. -/
theorem isTail_of_flatMap {cs : List Char} {b : UInt8}
    (h : (cs.flatMap String.utf8EncodeChar)[0]? = some b) : isTail b = false := by
  cases cs with
  | nil => cases h
  | cons c cs =>
    obtain ⟨first, tails, hc, hfirst, -⟩ := exists_encode_eq_cons c
    rw [List.flatMap_cons, hc, List.cons_append, List.getElem?_cons_zero] at h
    rw [← Option.some.inj h, hfirst]

/-- Inside of a character there is no boundary. -/
theorem isBoundary_append_of_lt {c : Char} {rest : List UInt8} {n : Nat} (hpos : 0 < n)
    (hlt : n < c.utf8Size) : isBoundary (String.utf8EncodeChar c ++ rest) n = false := by
  obtain ⟨first, tails, hc, -, htails⟩ := exists_encode_eq_cons c
  have hlength := String.length_utf8EncodeChar c
  obtain ⟨m, rfl⟩ := Nat.exists_eq_add_one.2 hpos
  rw [hc, List.length_cons] at hlength
  have hm : m < tails.length := by omega
  have hget : (first :: tails ++ rest)[m + 1]? = some tails[m] := by
    rw [List.cons_append, List.getElem?_cons_succ, List.getElem?_append_left hm,
      List.getElem?_eq_getElem hm]
  simp only [isBoundary, hc, hget, htails _ (List.getElem_mem hm)]
  rfl

/-- Behind a character the boundaries are those of the bytes that follow, if these do not begin with
one that continues a character. -/
theorem isBoundary_append_add (c : Char) {rest : List UInt8} (n : Nat)
    (hrest : ∀ b, rest[0]? = some b → isTail b = false) :
    isBoundary (String.utf8EncodeChar c ++ rest) (c.utf8Size + n) = isBoundary rest n := by
  have hpos := c.utf8Size_pos
  have hget : (String.utf8EncodeChar c ++ rest)[c.utf8Size + n]? = rest[n]? := by
    rw [← String.length_utf8EncodeChar, List.getElem?_append_right (Nat.le_add_right _ _),
      Nat.add_sub_cancel_left]
  have hend : (c.utf8Size + n == c.utf8Size + rest.length) = (n == rest.length) := by
    rw [Bool.eq_iff_iff, beq_iff_eq, beq_iff_eq, Nat.add_left_cancel_iff]
  rw [isBoundary, isBoundary, hget, List.length_append, String.length_utf8EncodeChar, hend]
  obtain rfl | hn := Nat.eq_zero_or_pos n
  · -- right behind the character a byte is looked at, which at the start of `rest` it is not
    cases hb : rest[0]? with
    | none => simp [Nat.le_zero.1 (List.getElem?_eq_none_iff.1 hb)]
    | some b => simp [hrest b hb]
  · have hsum : (c.utf8Size + n == 0) = false := beq_eq_false_iff_ne.2 (by omega)
    have hzero : (n == 0) = false := beq_eq_false_iff_ne.2 (by omega)
    rw [hsum, hzero]

theorem isBoundary_flatMap_iff {cs : List Char} {n : Nat} :
    isBoundary (cs.flatMap String.utf8EncodeChar) n = true ↔ n ∈ boundaries cs := by
  induction cs generalizing n with
  | nil => simp [isBoundary, boundaries, boundariesFrom]
  | cons c cs ih =>
    rw [List.flatMap_cons, mem_boundaries_cons_iff]
    obtain rfl | hpos := Nat.eq_zero_or_pos n
    · exact iff_of_true rfl (.inl rfl)
    obtain hlt | hge := Nat.lt_or_ge n c.utf8Size
    · rw [isBoundary_append_of_lt hpos hlt]
      refine iff_of_false Bool.false_ne_true ?_
      rintro (rfl | ⟨q, -, rfl⟩) <;> omega
    · obtain ⟨q, rfl⟩ := Nat.exists_eq_add_of_le hge
      rw [isBoundary_append_add c q fun b => isTail_of_flatMap, ih]
      constructor
      · intro hq
        exact .inr ⟨q, hq, rfl⟩
      · rintro (hzero | ⟨r, hr, heq⟩)
        · omega
        · rwa [Nat.add_left_cancel heq]

end Utf8

/-- **What the bytes of a text say is what its characters say.** -/
theorem isBoundary_bytes_iff {text : String} {n : Nat} :
    Utf8.isBoundary (bytes text) n = true ↔ n ∈ boundaries text.toList := by
  rw [bytes_eq, Utf8.isBoundary_flatMap_iff]

/-! ## The way back -/

/-- Go back from an offset, a byte at a time, until there is a boundary. What comes of it is the
boundary and the number of steps, if `steps` of them were made before. -/
def walkBack (bytes : List UInt8) (steps n : Nat) : Checked (Nat × Nat) :=
  if Utf8.isBoundary bytes n then .ok (n, steps)
  else
    match n with
    | 0 => .error (.fault .subOverflow)
    | n + 1 => walkBack bytes (steps + 1) n

/-- Cut an offset off at the end of the text, and go back from there. -/
def walkClamp (text : String) (offset : Nat) : Checked (Nat × Nat) :=
  walkBack (bytes text) 0 (min offset text.utf8ByteSize)

/-- The way back ends at the boundary, and there is one step for each byte. -/
theorem walkBack_eq (text : String) (steps n : Nat) :
    walkBack (bytes text) steps n =
      .ok (clamp text.toList n, steps + (n - clamp text.toList n)) := by
  -- a step does not change where the offset is brought back to, and at zero there is a boundary
  induction n generalizing steps with
  | zero =>
    have hzero := zero_mem_boundaries text.toList
    rw [walkBack, if_pos (isBoundary_bytes_iff.2 hzero), clamp_of_mem_boundaries hzero]
    rfl
  | succ n ih =>
    rw [walkBack]
    split
    · rename_i hboundary
      rw [clamp_of_mem_boundaries (isBoundary_bytes_iff.1 hboundary), Nat.sub_self, Nat.add_zero]
    · rename_i hboundary
      have hle := clamp_le text.toList n
      rw [ih, clamp_succ_of_not_mem (mt isBoundary_bytes_iff.2 hboundary), Nat.sub_add_comm hle,
        Nat.add_assoc, Nat.add_comm 1]

/-- **From any offset it is three steps at most** to the boundary that it is brought back to. -/
theorem exists_walkClamp_eq (text : String) (offset : Nat) :
    ∃ steps ≤ 3, walkClamp text offset = .ok (clamp text.toList offset, steps) ∧
      clamp text.toList offset + steps = min offset text.utf8ByteSize := by
  have hle := clamp_le text.toList (min offset text.utf8ByteSize)
  have hthree : min offset text.utf8ByteSize ≤
      clamp text.toList (min offset text.utf8ByteSize) + 3 := by
    refine le_clamp_add_three ?_
    rw [byteLength_toList]
    exact Nat.min_le_right _ _
  rw [clamp_min_utf8ByteSize] at hle hthree
  refine ⟨min offset text.utf8ByteSize - clamp text.toList offset, by omega, ?_, by omega⟩
  rw [walkClamp, walkBack_eq, clamp_min_utf8ByteSize, Nat.zero_add]

/-- Three steps are needed inside of a character of four bytes. -/
example : walkClamp "a😀" 4 = .ok (1, 3) := by decide

end Text

namespace Diagnostic

/-- **A diagnostic holds the greatest boundary that its offset does not stand before.** Whichever
stage makes it, and of whatever text: the offset that it holds is a boundary of the text, and there
is no other one between that and the offset it was made with. What is a boundary can be seen from
the bytes as well as from the characters. The way there, from the offset or from the end of the text
if that comes first, takes three steps at most and does not go below zero. Boundaries are held as
they are, and nothing else is. A diagnostic that is made again with the offset it holds is the same
one, and a greater offset does not make for a smaller one that is held. -/
theorem offset_greatest_boundary (stage : Stage) (message source : String) :
    (∀ b, Text.Utf8.isBoundary (Text.bytes source) b = true ↔ b ∈ Text.boundaries source.toList) ∧
    (∀ offset,
      let d := of stage message source offset
      IsGreatest {b | b ∈ Text.boundaries source.toList ∧ b ≤ offset} d.offset ∧
      d.offset ≤ source.utf8ByteSize ∧
      (∀ b ∈ Text.boundaries source.toList, ¬(d.offset < b ∧ b < offset)) ∧
      (∃ steps ≤ 3, Text.walkClamp source offset = .ok (d.offset, steps) ∧
        d.offset + steps = min offset source.utf8ByteSize) ∧
      (d.offset = offset ↔ offset ∈ Text.boundaries source.toList) ∧
      of d.stage d.message d.source d.offset = d) ∧
    Monotone fun offset => (of stage message source offset).offset := by
  simp only [of_eq]
  have hmem := Text.clamp_mem_boundaries source.toList
  refine ⟨fun b => Text.isBoundary_bytes_iff, fun offset => ?_, Text.clamp_mono source.toList⟩
  have hgreatest := Text.isGreatest_clamp source.toList offset
  refine ⟨hgreatest, Text.le_utf8ByteSize_of_mem_boundaries (hmem offset), ?_,
    Text.exists_walkClamp_eq source offset, Text.clamp_eq_self_iff, ?_⟩
  · rintro b hb ⟨hlt, hle⟩
    have hupper := hgreatest.2 ⟨hb, Nat.le_of_lt hle⟩
    omega
  · rw [Text.clamp_of_mem_boundaries (hmem offset)]

end Diagnostic

end Descent
