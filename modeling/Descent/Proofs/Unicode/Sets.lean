import Descent.Unicode.Property
import Descent.Unicode.Fold
import Descent.Proofs.CharSet.Proper

/-!
# The sets of the tables are proper

Places that are given by their distances do not fall, and neither do those of labelled runs. So
whatever the tables say, the sets that are read from them and cut down to characters are proper, and
so is the set that any question for a property is answered with (`Property.proper_of_lookup`). Only
the two classes that are written out have to be looked at.
-/

namespace Descent.Unicode

open CharSet

variable {s : CharSet} {name : String}

/-! ## Packed tables -/

/-- Sums of distances never fall. -/
theorem rising_sums (n : Nat) (ds : List Nat) : (n :: Packed.sums n ds).Pairwise (· ≤ ·) := by
  induction ds generalizing n with
  | nil => exact List.pairwise_singleton _ n
  | cons d ds ih => exact rising_cons (Nat.le_add_right n d) (ih (n + d))

/-- A table of distances makes a proper set, whatever is in the table. -/
theorem proper_ofDistances (table : String) : (Packed.ofDistances table).Proper :=
  .inter_right (rising_sums 0 _).of_cons proper_all

/-- The breaks of some runs rise, since a run has no negative length. -/
theorem rising_runBreaks (wanted : List Char → Bool) {lo n : Nat} (h : lo ≤ n) (now : Bool)
    (runs : List (Nat × List Char)) :
    (lo :: Packed.runBreaks wanted n now runs).Pairwise (· ≤ ·) := by
  induction runs generalizing lo n now with
  | nil =>
    rw [Packed.runBreaks]
    split
    · exact List.pairwise_pair.2 h
    · exact List.pairwise_singleton _ lo
  | cons run runs ih => exact rising_mark h fun now => ih (Nat.le_add_right n run.1) now

/-- A table of runs makes a proper set, whatever is in the table. -/
theorem proper_ofRuns (runs : List (Nat × List Char)) (wanted : List Char → Bool) :
    (Packed.ofRuns runs wanted).Proper :=
  .inter_right (rising_runBreaks wanted (Nat.le_refl 0) false runs).of_cons proper_all

/-- The set of some general categories is taken from a table of runs. -/
theorem proper_ofCategories (codes : List String) : (ofCategories codes).Proper :=
  proper_ofRuns _ _

theorem proper_ofScript (code : String) : (ofScript code).Proper := proper_ofRuns _ _

/-- The characters that a script uses are taken from two tables, and both make proper sets. -/
theorem proper_ofScriptExtension (code : String) : (ofScriptExtension code).Proper :=
  ((proper_ofScript code).diff (proper_ofRuns _ _).rising).union (proper_ofRuns _ _)

/-! ## Classes -/

theorem proper_decimalDigit : decimalDigit.Proper :=
  proper_of_diff (Ordered.rising (by decide +kernel)) (by decide +kernel)

theorem proper_whiteSpace : whiteSpace.Proper :=
  proper_of_diff (Ordered.rising (by decide +kernel)) (by decide +kernel)

/-- The characters of words are a union of sets that are proper. -/
theorem proper_word : word.Proper := by
  refine proper_unions (List.forall_mem_cons.2 ⟨proper_ofDistances _, ?_⟩)
  refine List.forall_mem_cons.2 ⟨proper_ofCategories _, List.forall_mem_cons.2 ?_⟩
  exact ⟨proper_decimalDigit, List.forall_mem_singleton.2 (proper_range _ _)⟩

/-! ## Questions -/

/-- All sets that the name of a category stands for are proper. -/
theorem proper_of_category? (h : category? name = some s) : s.Proper := by
  unfold category? at h
  split at h
  · exact Option.some.inj h ▸ proper_all
  split at h
  · exact Option.some.inj h ▸ (proper_ofCategories _).complement
  split at h
  · exact Option.some.inj h ▸ proper_range _ _
  · obtain ⟨codes, -, rfl⟩ := Option.map_eq_some_iff.1 h
    exact proper_ofCategories codes

/-- All sets that the name of a property stands for are proper. -/
theorem proper_of_binary? (h : binary? name = some s) : s.Proper := by
  unfold binary? at h
  split at h
  · exact Option.some.inj h ▸ proper_whiteSpace
  · obtain ⟨table, -, rfl⟩ := Option.map_eq_some_iff.1 h
    exact proper_ofDistances table

/-- If nobody is told that a value is unknown, then there is a set. -/
theorem orUnknownValue_eq_ok {answer : Option CharSet} (h : orUnknownValue answer = .ok s) :
    answer = some s := by
  cases answer with
  | none => cases h
  | some t => rw [Except.ok.inj h]

/-- **A question is answered with a proper set.** -/
theorem Property.proper_of_lookup {query : Property} : query.lookup = .ok s → s.Proper := by
  fun_cases lookup query with
  | case1 name loose t hfound =>
    intro h
    obtain rfl := Except.ok.inj h
    cases hbinary : binary? loose with
    | some s =>
      rw [hbinary] at hfound
      exact Option.some.inj hfound ▸ proper_of_binary? hbinary
    | none =>
      rw [hbinary] at hfound
      exact proper_of_category? hfound
  | case2 => nofun
  | case3 name loose hnone hother code hcode =>
    intro h
    exact Except.ok.inj h ▸ proper_ofScript code
  | case4 => nofun
  | case5 name value loose looseValue hname =>
    exact fun h => proper_of_category? (orUnknownValue_eq_ok h)
  | case6 name value loose looseValue hname hscript =>
    intro h
    obtain ⟨code, -, rfl⟩ := Option.map_eq_some_iff.1 (orUnknownValue_eq_ok h)
    exact proper_ofScript code
  | case7 name value loose looseValue hname hscript hextension =>
    intro h
    obtain ⟨code, -, rfl⟩ := Option.map_eq_some_iff.1 (orUnknownValue_eq_ok h)
    exact proper_ofScriptExtension code
  | case8 => nofun
  | case9 => nofun

/-! ## Letter cases -/

/-- With all cases of its characters, a proper set stays proper. -/
theorem proper_closeUnderCase (hs : s.Proper) : (closeUnderCase s).Proper := by
  rw [closeUnderCase]
  refine List.foldlRecOn _ _ hs fun s hs group _ => ?_
  exact hs.union (proper_ofList _)

/-- With both cases of its letters, a proper set stays proper. -/
theorem proper_closeUnderAsciiCase (hs : s.Proper) : (closeUnderAsciiCase s).Proper :=
  (hs.union (proper_ofList _)).union (proper_ofList _)

end Descent.Unicode
