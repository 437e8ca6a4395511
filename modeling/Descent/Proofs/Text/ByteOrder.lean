import Mathlib.Data.String.Basic

/-!
# The order of texts is the order of their bytes

Texts are compared character by character, and characters by their code points. To compare the bytes
of the texts in UTF-8 comes to the same (`compare_bytes`): where two characters differ, the bytes of
the one with the smaller code point come first (`compare_encode_of_lt`), and so neither begins with
the bytes of the other.
-/

namespace Descent.Text

/-- The bytes of a text in UTF-8. -/
def bytes (s : String) : List UInt8 := s.toUTF8.data.toList

theorem bytes_eq (s : String) : bytes s = s.toList.flatMap String.utf8EncodeChar := by
  rw [bytes, String.toUTF8, ← String.utf8Encode_toList, List.utf8Encode]
  simp

/-! ## Bytes -/

/-- A smaller byte decides. -/
theorem compare_byte_of_lt {a b : Nat} {x y : List UInt8} (hlt : a < b) (hb : b < 256) :
    compare (UInt8.ofNat a :: x) (UInt8.ofNat b :: y) = .lt := by
  have hbyte : UInt8.ofNat a < UInt8.ofNat b := by
    rw [UInt8.lt_iff_toNat_lt, UInt8.toNat_ofNat', UInt8.toNat_ofNat']
    omega
  rw [List.compare_cons_cons, Std.compare_eq_lt.2 hbyte]
  rfl

/-- A byte that is no greater decides, or it leaves it to the bytes behind it. -/
theorem compare_byte_of_le {a b : Nat} {x y : List UInt8} (hle : a ≤ b) (hb : b < 256)
    (hrest : a = b → compare x y = .lt) :
    compare (UInt8.ofNat a :: x) (UInt8.ofNat b :: y) = .lt := by
  obtain hlt | rfl := Nat.lt_or_eq_of_le hle
  · exact compare_byte_of_lt hlt hb
  · rw [List.compare_cons_cons, Std.ReflOrd.compare_self, hrest rfl]
    rfl

theorem compare_append (a x y : List UInt8) : compare (a ++ x) (a ++ y) = compare x y := by
  induction a with
  | nil => rfl
  | cons b a ih =>
    rw [List.cons_append, List.cons_append, List.compare_cons_cons, Std.ReflOrd.compare_self, ih]
    rfl

/-! ## Characters -/

/-- The bytes of the smaller of two characters come first, whatever follows. -/
theorem compare_encode_of_lt {c d : Char} (h : c < d) (x y : List UInt8) :
    compare (String.utf8EncodeChar c ++ x) (String.utf8EncodeChar d ++ y) = .lt := by
  have hlt : c.val.toNat < d.val.toNat := h
  have hd : d.val.toNat < 0x110000 := by
    have := d.valid
    rcases this with h | h <;> omega
  simp only [String.utf8EncodeChar]
  -- A character with fewer bytes has a smaller first byte; otherwise the first bytes that differ
  -- decide.
  split_ifs
  · exact compare_byte_of_lt hlt (by omega)
  iterate 3 exact compare_byte_of_lt (by omega) (by omega)
  · omega
  · refine compare_byte_of_le (by omega) (by omega) fun h => ?_
    exact compare_byte_of_lt (by omega) (by omega)
  iterate 2 exact compare_byte_of_lt (by omega) (by omega)
  iterate 2 omega
  · refine compare_byte_of_le (by omega) (by omega) fun h => ?_
    refine compare_byte_of_le (by omega) (by omega) fun h => ?_
    exact compare_byte_of_lt (by omega) (by omega)
  · exact compare_byte_of_lt (by omega) (by omega)
  iterate 3 omega
  · refine compare_byte_of_le (by omega) (by omega) fun h => ?_
    refine compare_byte_of_le (by omega) (by omega) fun h => ?_
    refine compare_byte_of_le (by omega) (by omega) fun h => ?_
    exact compare_byte_of_lt (by omega) (by omega)

/-! ## Texts -/

/-- The bytes of lists of characters compare like the characters. -/
theorem compare_flatMap_encode (cs ds : List Char) :
    compare (cs.flatMap String.utf8EncodeChar) (ds.flatMap String.utf8EncodeChar) =
      compare cs ds := by
  induction cs generalizing ds with
  | nil =>
    cases ds with
    | nil => rfl
    | cons d ds =>
      obtain ⟨b, bs, hd⟩ := List.exists_cons_of_ne_nil (@String.utf8EncodeChar_ne_nil d)
      rw [List.flatMap_nil, List.flatMap_cons, hd, List.cons_append, List.compare_nil_cons,
        List.compare_nil_cons]
  | cons c cs ih =>
    cases ds with
    | nil =>
      obtain ⟨b, bs, hc⟩ := List.exists_cons_of_ne_nil (@String.utf8EncodeChar_ne_nil c)
      rw [List.flatMap_nil, List.flatMap_cons, hc, List.cons_append, List.compare_cons_nil,
        List.compare_cons_nil]
    | cons d ds =>
      rw [List.flatMap_cons, List.flatMap_cons, List.compare_cons_cons]
      rcases lt_trichotomy c d with hlt | rfl | hgt
      · rw [compare_encode_of_lt hlt, compare_lt_iff_lt.2 hlt]
        rfl
      · rw [compare_append, ih, Std.ReflOrd.compare_self]
        rfl
      · rw [Std.OrientedOrd.eq_swap, compare_encode_of_lt hgt, compare_gt_iff_gt.2 hgt]
        rfl

theorem compare_eq_lt_iff {cs ds : List Char} : compare cs ds = .lt ↔ cs < ds := by
  induction cs generalizing ds with
  | nil =>
    cases ds with
    | nil => exact iff_of_false (by rw [Std.ReflOrd.compare_self]; decide) (List.lt_irrefl [])
    | cons d ds => exact iff_of_true List.compare_nil_cons (List.nil_lt_cons d ds)
  | cons c cs ih =>
    cases ds with
    | nil => exact iff_of_false (by rw [List.compare_cons_nil]; decide) (List.not_lt_nil _)
    | cons d ds =>
      rw [List.compare_cons_cons, Ordering.then_eq_lt, ih, compare_lt_iff_lt, compare_eq_iff_eq,
        List.cons_lt_cons_iff]

/-- Texts compare like their characters. -/
theorem compare_toList (s t : String) : compare s.toList t.toList = compare s t := by
  rcases lt_trichotomy s t with hlt | rfl | hgt
  · rw [compare_lt_iff_lt.2 hlt, compare_eq_lt_iff.2 (String.lt_iff_toList_lt.1 hlt)]
  · rw [Std.ReflOrd.compare_self, Std.ReflOrd.compare_self]
  · rw [compare_gt_iff_gt.2 hgt, Std.OrientedOrd.eq_swap,
      compare_eq_lt_iff.2 (String.lt_iff_toList_lt.1 hgt)]
    rfl

theorem compare_toNat (c d : Char) : compare c.toNat d.toNat = compare c d := by
  rcases lt_trichotomy c d with hlt | rfl | hgt
  · rw [compare_lt_iff_lt.2 hlt, compare_lt_iff_lt]
    exact hlt
  · rw [Std.ReflOrd.compare_self, Std.ReflOrd.compare_self]
  · rw [compare_gt_iff_gt.2 hgt, compare_gt_iff_gt]
    exact hgt

theorem compare_map_toNat (cs ds : List Char) :
    compare (cs.map Char.toNat) (ds.map Char.toNat) = compare cs ds := by
  induction cs generalizing ds with
  | nil => cases ds <;> rfl
  | cons c cs ih =>
    cases ds with
    | nil => rfl
    | cons d ds =>
      rw [List.map_cons, List.map_cons, List.compare_cons_cons, List.compare_cons_cons,
        compare_toNat, ih]

/-- **Texts compare like their bytes.** -/
theorem compare_bytes (s t : String) : compare (bytes s) (bytes t) = compare s t := by
  rw [bytes_eq, bytes_eq, compare_flatMap_encode, compare_toList]

/-- Texts compare like their code points. -/
theorem compare_codePoints (s t : String) :
    compare (s.toList.map Char.toNat) (t.toList.map Char.toNat) = compare s t := by
  rw [compare_map_toNat, compare_toList]

end Descent.Text
