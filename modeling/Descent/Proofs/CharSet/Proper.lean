import Descent.Proofs.CharSet.Algebra

/-!
# Proper sets of characters

A set is proper if its places do not fall and nothing but characters is in it. Sets that are written
out as ranges are proper, and so is every combination of proper sets. Of a proper set `single?`
tells whether it has one character (`CharSet.Proper.eq_single`), and the union of proper sets has
what any of them has (`CharSet.contains_unions`).
-/

namespace Descent.CharSet

/-- The places of the set do not fall, and what is in it are characters. -/
structure Proper (s : CharSet) : Prop where
  rising : s.Rising
  valid : ∀ n, inside s.breaks n = true → n.isValidChar

variable {op : Bool → Bool → Bool} {s t : CharSet} {c d : Char}

/-- What is in a set is in its first run or in those behind it. -/
theorem cases_of_inside {n lo hi : Nat} {bs : List Nat} (h : inside (lo :: hi :: bs) n = true) :
    lo ≤ n ∧ n < hi ∨ inside bs n = true := by
  obtain hlt | hle := Nat.lt_or_ge n lo
  · rw [inside_cons_of_lt hlt] at h
    cases h
  rw [inside_cons_of_le hle, Bool.not_eq_true'] at h
  obtain hlt | hle' := Nat.lt_or_ge n hi
  · exact .inl ⟨hle, hlt⟩
  · rw [inside_cons_of_le hle', Bool.not_eq_false'] at h
    exact .inr h

/-- In the set of all characters there are none but characters. -/
theorem valid_of_inside_all {n : Nat} (h : inside all.breaks n = true) : n.isValidChar := by
  rw [Nat.isValidChar]
  obtain hlow | h := cases_of_inside h
  · exact .inl hlow.2
  obtain hhigh | h := cases_of_inside h
  · exact .inr ⟨hhigh.1, hhigh.2⟩
  · cases h

theorem proper_empty : empty.Proper := ⟨.nil, nofun⟩

theorem proper_all : all.Proper := ⟨ordered_all.rising, fun _ => valid_of_inside_all⟩

/-! ## Combinations -/

/-- A combination of sets is proper if all that is wanted is a character. -/
theorem proper_zip (hop : op false false = false) (hs : s.Rising) (ht : t.Rising)
    (hvalid : ∀ n, op (inside s.breaks n) (inside t.breaks n) = true → n.isValidChar) :
    (zip op s t).Proper := by
  refine ⟨hs.zip ht, fun n h => hvalid n ?_⟩
  rwa [inside_zip hop hs ht] at h

/-- A combination of proper sets is proper: nothing is wanted that is in neither. -/
theorem Proper.zip (hop : op false false = false) (hs : s.Proper) (ht : t.Proper) :
    (CharSet.zip op s t).Proper := by
  refine proper_zip hop hs.rising ht.rising fun n h => ?_
  by_contra hnot
  have hns : inside s.breaks n = false := Bool.eq_false_iff.2 fun h => hnot (hs.valid n h)
  have hnt : inside t.breaks n = false := Bool.eq_false_iff.2 fun h => hnot (ht.valid n h)
  rw [hns, hnt, hop] at h
  cases h

/-- The union of proper sets is proper. -/
theorem Proper.union (hs : s.Proper) (ht : t.Proper) : (s.union t).Proper := hs.zip rfl ht

/-- What a proper set and another one have in common is proper. -/
theorem Proper.inter_left (hs : s.Proper) (ht : t.Rising) : (s.inter t).Proper :=
  proper_zip rfl hs.rising ht fun n h => hs.valid n (Bool.and_eq_true _ _ ▸ h).1

theorem Proper.inter_right (hs : s.Rising) (ht : t.Proper) : (s.inter t).Proper :=
  proper_zip rfl hs ht.rising fun n h => ht.valid n (Bool.and_eq_true _ _ ▸ h).2

/-- What is left of a proper set is proper. -/
theorem Proper.diff (hs : s.Proper) (ht : t.Rising) : (s.diff t).Proper :=
  proper_zip rfl hs.rising ht fun n h => hs.valid n (Bool.and_eq_true _ _ ▸ h).1

/-- The characters that are not in a set make a proper set. -/
theorem Proper.complement (hs : s.Proper) : s.complement.Proper := proper_all.diff hs.rising

/-- A set from which nothing is left if all characters are taken away is proper. -/
theorem proper_of_diff (hs : s.Rising) (hempty : s.diff all = empty) : s.Proper := by
  refine ⟨hs, fun n h => valid_of_inside_all ?_⟩
  have hleft : inside (s.diff all).breaks n = (inside s.breaks n && !inside all.breaks n) :=
    inside_zip rfl hs proper_all.rising n
  rw [hempty, h, Bool.true_and] at hleft
  exact (Bool.not_eq_false' _).mp hleft.symm

/-! ## Sets that are written out -/

/-- A range is proper: it leaves out the code points that are not characters. -/
theorem proper_range (lo hi : Char) : (range lo hi).Proper := by
  rw [range]
  have hlo : lo.toNat < 0xD800 ∨ 0xDFFF < lo.toNat ∧ lo.toNat < 0x110000 := lo.valid
  have hhi : hi.toNat < 0xD800 ∨ 0xDFFF < hi.toNat ∧ hi.toNat < 0x110000 := hi.valid
  split
  · exact proper_empty
  rename_i hle
  replace hle : lo.toNat ≤ hi.toNat := Nat.not_lt.1 hle
  split
  · refine ⟨rising_cons (by omega) (rising_cons (by omega) (List.pairwise_pair.2 (by omega))),
      fun n h => ?_⟩
    rw [Nat.isValidChar]
    obtain hlow | h := cases_of_inside h
    · omega
    obtain hhigh | h := cases_of_inside h
    · omega
    · cases h
  · refine ⟨List.pairwise_pair.2 (by omega), fun n h => ?_⟩
    rw [Nat.isValidChar]
    obtain hrun | h := cases_of_inside h
    · omega
    · cases h

theorem proper_single (c : Char) : (single c).Proper := proper_range c c

/-- The sets of a list, and one more. -/
theorem contains_foldl_union {sets : List CharSet} (hs : s.Proper) (hsets : ∀ t ∈ sets, t.Proper) :
    (sets.foldl union s).Proper ∧ ∀ c, (sets.foldl union s).contains c = true ↔
      s.contains c = true ∨ ∃ t ∈ sets, t.contains c = true := by
  induction sets generalizing s with
  | nil => exact ⟨hs, fun c => by simp⟩
  | cons t sets ih =>
    obtain ⟨ht, hsets⟩ := List.forall_mem_cons.1 hsets
    obtain ⟨hproper, hcontains⟩ := ih (hs.union ht) hsets
    refine ⟨hproper, fun c => ?_⟩
    have hunion : (s.union t).contains c = (s.contains c || t.contains c) :=
      inside_zip rfl hs.rising ht.rising c.toNat
    rw [List.foldl_cons, hcontains, hunion, Bool.or_eq_true, or_assoc]
    simp only [List.mem_cons, exists_eq_or_imp]

/-- The union of proper sets is proper, however many there are. -/
theorem proper_unions {sets : List CharSet} (h : ∀ s ∈ sets, s.Proper) : (unions sets).Proper :=
  (contains_foldl_union proper_empty h).1

/-- **The union of some sets has what any of them has.** -/
theorem contains_unions {sets : List CharSet} (h : ∀ s ∈ sets, s.Proper) :
    (unions sets).contains c = true ↔ ∃ s ∈ sets, s.contains c = true := by
  rw [unions, (contains_foldl_union proper_empty h).2]
  exact or_iff_right nofun

/-- A set that is written out as ranges is proper. -/
theorem proper_ofRanges (ranges : List (Char × Char)) : (ofRanges ranges).Proper := by
  refine proper_unions fun s hs => ?_
  obtain ⟨r, -, rfl⟩ := List.mem_map.1 hs
  exact proper_range r.1 r.2

theorem proper_singles (cs : List Char) : ∀ s ∈ cs.map single, s.Proper := by
  intro s hs
  obtain ⟨c, -, rfl⟩ := List.mem_map.1 hs
  exact proper_single c

theorem proper_ofList (cs : List Char) : (ofList cs).Proper := proper_unions (proper_singles cs)

/-- The set of some characters has these and no others. -/
theorem contains_ofList {cs : List Char} : (ofList cs).contains c = true ↔ c ∈ cs := by
  rw [ofList, contains_unions (proper_singles cs)]
  simp only [List.mem_map, exists_exists_and_eq_and, contains_single, exists_eq_right']

/-! ## Single characters -/

/-- **A proper set is that of its single character.** -/
theorem Proper.eq_single (hs : s.Proper) (h : s.single? = some c) : s = single c := by
  obtain ⟨breaks⟩ := s
  rw [single?] at h
  split at h
  · rename_i lo hi heq
    split at h
    · rename_i hhi
      obtain rfl := Option.some.inj h
      obtain rfl : breaks = [lo, hi] := heq
      have hlo : lo.isValidChar := by
        refine hs.valid lo ?_
        rw [inside_cons_of_le (Nat.le_refl lo), inside_cons_of_lt (by omega)]
        rfl
      rw [single_eq, Char.ofNat, dif_pos hlo, hhi]
      rfl
    · cases h
  · cases h

end Descent.CharSet
