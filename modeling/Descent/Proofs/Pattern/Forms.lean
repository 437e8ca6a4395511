import Descent.Proofs.CharSet.Algebra
import Descent.Proofs.Pattern.Language

/-!
# Taking a form apart keeps its language

The expression of a form matches what the form does, if the form's sets are found at its sites
(`Form.language_expr`).
-/

namespace Descent.Pattern

variable {sites : Sites} {site : Nat} {s : CharSet} {sets sets' : List CharSet} {e : Expr}

/-! ## Sites -/

/-- From a site on, the sets are found one after the other. -/
def Sites.Hold (sites : Sites) (site : Nat) (sets : List CharSet) : Prop :=
  ∀ i s, sets[i]? = some s → sites[site + i]? = some s

namespace Sites.Hold

theorem all (sets : List CharSet) : Hold sets.toArray 0 sets := by
  intro i s h
  rwa [Nat.zero_add, List.getElem?_toArray]

theorem left (h : sites.Hold site (sets ++ sets')) : sites.Hold site sets := by
  intro i s hs
  refine h i s ?_
  rwa [List.getElem?_append_left (List.getElem?_eq_some_iff.1 hs).1]

theorem right (h : sites.Hold site (sets ++ sets')) :
    sites.Hold (site + sets.length) sets' := by
  intro i s hs
  rw [Nat.add_assoc]
  refine h _ s ?_
  rwa [List.getElem?_append_right (Nat.le_add_right _ _), Nat.add_sub_cancel_left]

theorem head (h : sites.Hold site (s :: sets)) : sites.reads site = s.contains := by
  have hs : sites[site]? = some s := h 0 s rfl
  funext c
  rw [Sites.reads, hs]
  rfl

theorem tail (h : sites.Hold site (s :: sets)) : sites.Hold (site + 1) sets := by
  have happend : sites.Hold site ([s] ++ sets) := h
  exact happend.right

end Sites.Hold

/-! ## Parts -/

open Pattern.Language

/-- The set of one character, and that character. -/
theorem char_single (c : Char) : char (CharSet.single c).contains = char (· == c) := by
  congr 1
  funext d
  rw [Bool.eq_iff_iff, CharSet.contains_single, beq_iff_eq]

theorem Expr.language_leaves (text : List Char) (h : sites.Hold site (text.map CharSet.single)) :
    (leaves site text.length).language sites = Language.text text := by
  induction text generalizing site with
  | nil => rfl
  | cons c text ih =>
    have hleaf : (leaf site).language sites = char (· == c) := by
      rw [Expr.language, h.head, char_single]
    cases text with
    | nil =>
      rw [Language.text, Language.text, seq_unit]
      exact hleaf
    | cons d text =>
      change ((leaf site).language sites).seq ((leaves (site + 1) _).language sites) = _
      rw [hleaf, ih h.tail, ← Language.text]

theorem Expr.language_optional (greedy : Bool) (e : Expr) :
    (optional greedy e).language sites = unit.alt (e.language sites) := by
  cases greedy with
  | true => exact alt_comm _ _
  | false => rfl

/-- Whether the empty text is told apart from not to begin says nothing about what matches. -/
theorem Expr.language_repeated (nonempty : Bool) (min : Nat) (max : Option Nat) (greedy : Bool)
    (e : Expr) :
    (repeated nonempty min max greedy e).language sites =
      (e.language sites).repeated min max := by
  fun_cases repeated nonempty min max greedy e with
  | case1 hnonempty => exact (repeated_zero none _).symm
  | case2 hnonempty =>
    rw [language_optional, repeated_zero]
    exact (upTo_succ none _).symm
  | case3 =>
    rw [Language.repeated, times_one]
    rfl
  | case4 min hmin =>
    rw [Language.repeated, Nat.succ_eq_add_one, times_add, times_one, seq_assoc]
    rfl
  | case5 max => exact (repeated_zero (some max) _).symm
  | case6 min => exact (repeated_self min _).symm
  | case7 => rfl

/-- **The expression of a form matches what the form does.** -/
theorem Form.language_expr (f : Form) (h : sites.Hold site f.sets) :
    (f.expr site).language sites = f.language := by
  induction f generalizing site with
  | empty => rfl
  | literal text => exact Expr.language_leaves text h
  | set s => rw [expr, Expr.language, h.head, language]
  | look l => rfl
  | repetition min max greedy sub ih => rw [expr, Expr.language_repeated, ih h, language]
  | capture index sub ih => exact ih h
  | seq a b iha ihb => rw [expr, Expr.language, iha h.left, ihb h.right, language]
  | alt a b iha ihb => rw [expr, Expr.language, iha h.left, ihb h.right, language]

end Descent.Pattern
