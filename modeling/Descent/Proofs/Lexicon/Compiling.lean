import Mathlib.Data.List.Forall2
import Descent.Lexer

/-!
# Compiling a lexicon

Rules are compiled one by one, and compiling stops at the first rule whose pattern is refused. So
there are two ways for it to end: all rules are compiled, each in its place and with its own action
(`compileRules_eq_ok_iff`), or there is a first bad rule, which is reported with its number
(`compileRules_eq_error_iff`). A lexicon without rules is refused before that.
-/

namespace Descent

/-! ## Mapping what may fail -/

section Except

variable {ε ε' α β : Type} {f : α → β} {g : ε → ε'} {x : Except ε α}

@[simp] theorem map_eq_ok_iff {b : β} : x.map f = .ok b ↔ ∃ a, x = .ok a ∧ f a = b := by
  cases x <;> simp [Except.map]

@[simp] theorem map_eq_error_iff {e : ε} : x.map f = .error e ↔ x = .error e := by
  cases x <;> simp [Except.map]

@[simp] theorem mapError_eq_ok_iff {a : α} : x.mapError g = .ok a ↔ x = .ok a := by
  cases x <;> simp [Except.mapError]

@[simp] theorem mapError_eq_error_iff {e : ε'} :
    x.mapError g = .error e ↔ ∃ d, x = .error d ∧ g d = e := by
  cases x <;> simp [Except.mapError]

@[simp] theorem toOption_eq_some_iff {a : α} : x.toOption = some a ↔ x = .ok a := by
  cases x <;> simp [Except.toOption]

end Except

/-! ## One rule, and the first bad one -/

variable {κ : Type} {ignoreCase : Bool}

namespace Rule

/-- What a rule becomes: its pattern is compiled, and its action stays with it. -/
structure CompilesTo (ignoreCase : Bool) (r : Rule κ) (compiled : CompiledRule κ) : Prop where
  pattern : Pattern.compile ignoreCase r.pattern = .ok compiled.pattern
  action : compiled.action = r.action

/-- A rule becomes one thing at most. -/
theorem CompilesTo.unique {r : Rule κ} {a b : CompiledRule κ} (ha : r.CompilesTo ignoreCase a)
    (hb : r.CompilesTo ignoreCase b) : a = b := by
  obtain ⟨p, act⟩ := a
  obtain ⟨q, act'⟩ := b
  obtain rfl : act = act' := ha.action.trans hb.action.symm
  obtain rfl : p = q := Except.ok.inj (ha.pattern.symm.trans hb.pattern)
  rfl

section Compiled

variable {rules : List (Rule κ)} {compiled : List (CompiledRule κ)}
  (h : List.Forall₂ (Rule.CompilesTo ignoreCase) rules compiled)

include h

/-- The patterns of compiled rules are the patterns of the rules, compiled. -/
theorem map_compile_eq :
    (rules.map Rule.pattern).map (Pattern.compile ignoreCase) =
      (compiled.map CompiledRule.pattern).map Except.ok := by
  induction h with
  | nil => rfl
  | cons head _ ih => simp only [List.map_cons, head.pattern, ih]

/-- The actions of compiled rules are the actions of the rules. -/
theorem map_action_eq : compiled.map CompiledRule.action = rules.map Rule.action := by
  induction h with
  | nil => rfl
  | cons head _ ih => rw [List.map_cons, List.map_cons, head.action, ih]

/-- Rules with the same patterns are compiled to rules with the same patterns. -/
theorem map_pattern_eq {κ' : Type} {rules' : List (Rule κ')} {compiled' : List (CompiledRule κ')}
    (h' : List.Forall₂ (Rule.CompilesTo ignoreCase) rules' compiled')
    (hpatterns : rules.map Rule.pattern = rules'.map Rule.pattern) :
    compiled.map CompiledRule.pattern = compiled'.map CompiledRule.pattern := by
  have hok : (compiled.map CompiledRule.pattern).map (Except.ok (ε := Pattern.Error)) =
      (compiled'.map CompiledRule.pattern).map Except.ok := by
    rw [← map_compile_eq h, ← map_compile_eq h', hpatterns]
  exact List.map_injective_iff.2 (fun _ _ => Except.ok.inj) hok

end Compiled

/-- The pattern of a rule is refused, and no earlier one is. -/
structure FirstBad (ignoreCase : Bool) (rules : List (Rule κ)) (index : Nat) (r : Rule κ)
    (e : Pattern.Error) : Prop where
  rule : rules[index]? = some r
  refused : Pattern.compile ignoreCase r.pattern = .error e
  first : ∀ j s, j < index → rules[j]? = some s → ∃ p, Pattern.compile ignoreCase s.pattern = .ok p

variable {r s : Rule κ} {rules : List (Rule κ)} {e : Pattern.Error}

theorem FirstBad.head (h : Pattern.compile ignoreCase r.pattern = .error e) :
    FirstBad ignoreCase (r :: rules) 0 r e :=
  ⟨rfl, h, fun j _ hj => absurd hj (Nat.not_lt_zero j)⟩

theorem FirstBad.tail {p : Pattern} {k : Nat} (hp : Pattern.compile ignoreCase r.pattern = .ok p)
    (h : FirstBad ignoreCase rules k s e) : FirstBad ignoreCase (r :: rules) (k + 1) s e := by
  refine ⟨h.rule, h.refused, ?_⟩
  intro j t hj ht
  cases j with
  | zero =>
    obtain rfl := Option.some.inj ht
    exact ⟨p, hp⟩
  | succ j => exact h.first j t (Nat.lt_of_succ_lt_succ hj) ht

/-- The first bad rule is the first rule, or it stands behind a good one. -/
theorem firstBad_cons_cases {k : Nat} (h : FirstBad ignoreCase (r :: rules) k s e) :
    (k = 0 ∧ s = r ∧ Pattern.compile ignoreCase r.pattern = .error e) ∨
    ∃ j p, k = j + 1 ∧ Pattern.compile ignoreCase r.pattern = .ok p ∧
      FirstBad ignoreCase rules j s e := by
  cases k with
  | zero =>
    obtain rfl := Option.some.inj h.rule
    exact .inl ⟨rfl, rfl, h.refused⟩
  | succ j =>
    obtain ⟨p, hp⟩ := h.first 0 r (Nat.succ_pos j) rfl
    refine .inr ⟨j, p, rfl, hp, h.rule, h.refused, ?_⟩
    intro i t hi ht
    exact h.first (i + 1) t (Nat.succ_lt_succ hi) ht

end Rule

open Rule

/-! ## Rules -/

/-- Compiled rules are the rules in their order, each compiled, each with its own action. -/
theorem compileRules_eq_ok_iff {index : Nat} {rules : List (Rule κ)}
    {compiled : List (CompiledRule κ)} :
    compileRules ignoreCase index rules = .ok compiled ↔
      List.Forall₂ (Rule.CompilesTo ignoreCase) rules compiled := by
  induction rules generalizing index compiled with
  | nil =>
    rw [List.forall₂_nil_left_iff]
    constructor
    · intro h
      exact (Except.ok.inj h).symm
    · rintro rfl
      rfl
  | cons r rules ih =>
    simp only [compileRules]
    cases hr : Pattern.compile ignoreCase r.pattern with
    | error e =>
      constructor
      · nofun
      · rintro ⟨⟩
        rename_i a _ ha _
        exact nomatch hr.symm.trans ha.pattern
    | ok p =>
      simp only [map_eq_ok_iff]
      constructor
      · rintro ⟨rest, hrest, rfl⟩
        exact .cons ⟨hr, rfl⟩ (ih.1 hrest)
      · rintro ⟨⟩
        rename_i a rest ha hrest
        have hhead : r.CompilesTo ignoreCase ⟨p, r.action⟩ := ⟨hr, rfl⟩
        obtain rfl := hhead.unique ha
        exact ⟨rest, ih.2 hrest, rfl⟩

/-- If rules are not compiled, the first bad one is reported, and numbers are counted from the
first rule's. -/
theorem compileRules_eq_error_iff {index : Nat} {rules : List (Rule κ)} {e : LexiconError} :
    compileRules ignoreCase index rules = .error e ↔
      ∃ k r d, FirstBad ignoreCase rules k r d ∧ e = .invalidPattern (index + k) r.pattern d := by
  induction rules generalizing index with
  | nil =>
    constructor
    · nofun
    · rintro ⟨_, _, _, hbad, -⟩
      exact nomatch hbad.rule
  | cons r rules ih =>
    simp only [compileRules]
    cases hr : Pattern.compile ignoreCase r.pattern with
    | error d =>
      constructor
      · intro h
        exact ⟨0, r, d, .head hr, (Except.error.inj h).symm⟩
      · rintro ⟨k, s, d', hbad, rfl⟩
        obtain ⟨rfl, rfl, hs⟩ | ⟨_, _, -, hp, -⟩ := firstBad_cons_cases hbad
        · obtain rfl := Except.error.inj (hr.symm.trans hs)
          rfl
        · exact nomatch hr.symm.trans hp
    | ok p =>
      rw [map_eq_error_iff, ih]
      constructor
      · rintro ⟨k, s, d, hbad, rfl⟩
        exact ⟨k + 1, s, d, hbad.tail hr, by rw [Nat.add_right_comm, Nat.add_assoc]⟩
      · rintro ⟨k, s, d, hbad, rfl⟩
        obtain ⟨-, -, hs⟩ | ⟨j, _, rfl, -, hbad⟩ := firstBad_cons_cases hbad
        · exact nomatch hr.symm.trans hs
        · exact ⟨j, s, d, hbad, by rw [Nat.add_right_comm, Nat.add_assoc]⟩

/-! ## Lexicons -/

namespace Lexicon

variable {l : Lexicon κ}

theorem compile_of_nil (h : l.rules = []) : l.compile = .error .empty :=
  if_pos (List.isEmpty_iff.2 h)

theorem compile_of_ne_nil (h : l.rules ≠ []) :
    l.compile = (compileRules l.ignoreCase 0 l.rules).map Lexer.mk :=
  if_neg fun hempty => h (List.isEmpty_iff.1 hempty)

/-- Only a lexicon without rules is refused for having none. -/
theorem compile_eq_empty_iff : l.compile = .error .empty ↔ l.rules = [] := by
  constructor
  · intro h
    by_contra hne
    rw [compile_of_ne_nil hne, map_eq_error_iff, compileRules_eq_error_iff] at h
    obtain ⟨_, _, _, -, he⟩ := h
    cases he
  · exact compile_of_nil

/-- **The first bad rule is reported**, with its number and its own pattern. -/
theorem compile_eq_invalidPattern_iff {index : Nat} {pattern : String} {e : Pattern.Error} :
    l.compile = .error (.invalidPattern index pattern e) ↔
      ∃ r, Rule.FirstBad l.ignoreCase l.rules index r e ∧ r.pattern = pattern := by
  by_cases hnil : l.rules = []
  · have hnone : ∀ r, ¬ Rule.FirstBad l.ignoreCase l.rules index r e := by
      intro r hbad
      simpa [hnil] using hbad.rule
    simp [compile_of_nil hnil, hnone]
  · rw [compile_of_ne_nil hnil, map_eq_error_iff, compileRules_eq_error_iff]
    constructor
    · rintro ⟨k, r, d, hbad, he⟩
      rw [Nat.zero_add] at he
      obtain ⟨rfl, rfl, rfl⟩ := LexiconError.invalidPattern.inj he
      exact ⟨r, hbad, rfl⟩
    · rintro ⟨r, hbad, rfl⟩
      exact ⟨index, r, e, hbad, by rw [Nat.zero_add]⟩

/-- **A lexer is the lexicon, rule by rule.** -/
theorem compile_eq_ok_iff {lexer : Lexer κ} :
    l.compile = .ok lexer ↔
      l.rules ≠ [] ∧ List.Forall₂ (Rule.CompilesTo l.ignoreCase) l.rules lexer.rules := by
  by_cases hnil : l.rules = []
  · simp [compile_of_nil hnil, hnil]
  · rw [compile_of_ne_nil hnil, map_eq_ok_iff, and_iff_right hnil]
    constructor
    · rintro ⟨compiled, hcompiled, rfl⟩
      exact compileRules_eq_ok_iff.1 hcompiled
    · intro hforall
      exact ⟨lexer.rules, compileRules_eq_ok_iff.2 hforall, rfl⟩

/-- There is a lexer if there are rules and all their patterns can be compiled. -/
theorem exists_compile_eq_ok_iff :
    (∃ lexer, l.compile = .ok lexer) ↔
      l.rules ≠ [] ∧ ∀ r ∈ l.rules, ∃ p, Pattern.compile l.ignoreCase r.pattern = .ok p := by
  constructor
  · rintro ⟨lexer, h⟩
    obtain ⟨hne, hforall⟩ := compile_eq_ok_iff.1 h
    refine ⟨hne, ?_⟩
    intro r hr
    have hmem : Pattern.compile l.ignoreCase r.pattern ∈
        (l.rules.map Rule.pattern).map (Pattern.compile l.ignoreCase) :=
      List.mem_map_of_mem (List.mem_map_of_mem hr)
    rw [Rule.map_compile_eq hforall] at hmem
    obtain ⟨p, -, hp⟩ := List.mem_map.1 hmem
    exact ⟨p, hp.symm⟩
  · rintro ⟨hne, hall⟩
    cases h : l.compile with
    | ok lexer => exact ⟨lexer, rfl⟩
    | error e =>
      cases e with
      | empty => exact absurd (compile_eq_empty_iff.1 h) hne
      | invalidPattern index pattern e =>
        obtain ⟨r, hbad, -⟩ := compile_eq_invalidPattern_iff.1 h
        obtain ⟨p, hp⟩ := hall r (List.mem_of_getElem? hbad.rule)
        exact nomatch hp.symm.trans hbad.refused

/-- Whether there is a lexer depends on the patterns alone. -/
theorem exists_compile_of_patterns {κ' : Type} {rules : List (Rule κ)} {rules' : List (Rule κ')}
    (hpatterns : rules.map Rule.pattern = rules'.map Rule.pattern)
    (h : ∃ lexer, (Lexicon.mk rules ignoreCase).compile = .ok lexer) :
    ∃ lexer, (Lexicon.mk rules' ignoreCase).compile = .ok lexer := by
  obtain ⟨hne, hall⟩ := exists_compile_eq_ok_iff.1 h
  refine exists_compile_eq_ok_iff.2 ⟨?_, ?_⟩
  · rintro rfl
    exact hne (List.map_eq_nil_iff.1 hpatterns)
  · intro r hr
    have hmem : r.pattern ∈ rules.map Rule.pattern := hpatterns ▸ List.mem_map_of_mem hr
    obtain ⟨s, hs, heq⟩ := List.mem_map.1 hmem
    exact heq ▸ hall s hs

end Lexicon

end Descent
