import Descent.Proofs.Calculator.Lookahead
import Mathlib.Algebra.BigOperators.Ring.List
import Mathlib.Algebra.Group.Action.Defs
import Mathlib.Algebra.Order.BigOperators.Group.List
import Mathlib.Data.List.MinMax
import Mathlib.Data.List.Perm.Subperm
import Mathlib.Logic.Relation
import Mathlib.Tactic.Linarith
import Mathlib.Tactic.Ring

/-!
# How much a name stands for

The size of a name (`Calculator.size`) is the number of names that are replaced until none of those
is left that it stands for. If no alias leads back to itself (`Calculator.Acyclic`) then a name is
replaced once, and so is every name in what it stands for, as often as it occurs and with what it
stands for in turn (`Calculator.Acyclic.size_eq`). An alias that leads back to itself has no such
number, so that the equation tells which aliases are acyclic (`Calculator.acyclic_iff`).

A name can refer to a name that refers to another only as long as there are other names. That is why
the size is found in as many rounds as there are aliases, and why `Calculator.budget` is a power
with that exponent (`Calculator.longest_mul_size_lt`).
-/

namespace Descent.Calculator

/-- The names among some words. -/
def namesOf (words : List (Kind × String)) : List String :=
  (words.filter (·.1 = .ident)).map Prod.snd

variable {c : Calculator}

/-- A name stands for something in which another name occurs. -/
def RefersTo (c : Calculator) (name other : String) : Prop :=
  ∃ expansion, c.expansion? name = some expansion ∧ other ∈ namesOf expansion

/-- No alias leads back to itself. -/
def Acyclic (c : Calculator) : Prop := ∀ name, ¬ Relation.TransGen c.RefersTo name name

/-! ## Sizes -/

/-- The size of a name, if the names in what it stands for have the given sizes. -/
def sizeFrom (c : Calculator) (inner : String → Nat) (name : String) : Nat :=
  match c.expansion? name with
  | none => 0
  | some expansion => 1 + ((namesOf expansion).map inner).sum

/-- The size of a name, if it is found in a number of rounds. -/
def sizeWithin (c : Calculator) : Nat → String → Nat
  | 0, _ => 0
  | n + 1, name => c.sizeFrom (c.sizeWithin n) name

/-- How many names are replaced until a name and all that it stands for is replaced. -/
def size (c : Calculator) (name : String) : Nat := c.sizeWithin c.aliases.length name

/-- A name that stands for nothing is not replaced. -/
theorem sizeFrom_of_none {inner : String → Nat} {name : String} (h : c.expansion? name = none) :
    c.sizeFrom inner name = 0 := by
  rw [sizeFrom, h]

/-- A name is replaced once, and so are the names in what it stands for. -/
theorem sizeFrom_of_some {inner : String → Nat} {name : String}
    {expansion : List (Kind × String)} (h : c.expansion? name = some expansion) :
    c.sizeFrom inner name = 1 + ((namesOf expansion).map inner).sum := by
  rw [sizeFrom, h]

/-- What a name stands for is one of the aliases. -/
theorem mem_aliases_of_expansion? {name : String} {expansion : List (Kind × String)}
    (h : c.expansion? name = some expansion) : (name, expansion) ∈ c.aliases := by
  obtain ⟨newer, older, haliases, -⟩ := List.lookup_eq_some_iff.1 h
  rw [haliases]
  exact List.mem_append_right newer List.mem_cons_self

/-! ## Trails -/

/-- The names on the way to a name, the last one first: each of them refers to the one before it in
the list. -/
def Trail (c : Calculator) (trail : List String) : Prop :=
  trail.IsChain fun other name => c.RefersTo name other

/-- A trail goes on with a name that the last one refers to. -/
theorem Trail.cons {trail : List String} {name other : String} (h : c.Trail (name :: trail))
    (href : c.RefersTo name other) : c.Trail (other :: name :: trail) :=
  List.isChain_cons_cons.2 ⟨href, h⟩

/-- No name is met twice on the way to another one, for no alias leads back to itself. -/
theorem Acyclic.nodup_of_trail (hc : c.Acyclic) {trail : List String} (h : c.Trail trail) :
    trail.Nodup := by
  have hchain : trail.IsChain fun other name => Relation.TransGen c.RefersTo name other :=
    h.imp fun _ _ => .single
  have : Trans (fun other name => Relation.TransGen c.RefersTo name other)
      (fun other name => Relation.TransGen c.RefersTo name other)
      (fun other name => Relation.TransGen c.RefersTo name other) :=
    ⟨fun h h' => h'.trans h⟩
  refine (List.isChain_iff_pairwise.1 hchain).imp ?_
  rintro name _ hcycle rfl
  exact hc name hcycle

/-- All names on the way have aliases. -/
theorem Trail.subset {trail : List String} {name : String} (h : c.Trail (name :: trail)) :
    trail ⊆ c.aliases.map Prod.fst := by
  induction trail generalizing name with
  | nil => exact List.nil_subset _
  | cons previous trail ih =>
    obtain ⟨⟨expansion, hexpansion, -⟩, htrail⟩ := List.isChain_cons_cons.1 h
    have hmem := List.mem_map_of_mem (f := Prod.fst) (mem_aliases_of_expansion? hexpansion)
    exact List.cons_subset.2 ⟨hmem, ih htrail⟩

/-- **A way through the aliases ends**: where there have been as many names as there are aliases,
the name that they lead to has none. -/
theorem Acyclic.expansion?_eq_none (hc : c.Acyclic) {trail : List String} {name : String}
    (h : c.Trail (name :: trail)) (hlength : c.aliases.length ≤ trail.length) :
    c.expansion? name = none := by
  by_contra hsome
  obtain ⟨expansion, hexpansion⟩ := Option.ne_none_iff_exists'.1 hsome
  have hmem := List.mem_map_of_mem (f := Prod.fst) (mem_aliases_of_expansion? hexpansion)
  have hsubset : name :: trail ⊆ c.aliases.map Prod.fst := List.cons_subset.2 ⟨hmem, h.subset⟩
  have hle := (List.subperm_of_subset (hc.nodup_of_trail h) hsubset).length_le
  rw [List.length_cons, List.length_map] at hle
  omega

/-- Behind a trail, the rounds that are left are enough. -/
theorem Acyclic.sizeWithin_succ (hc : c.Acyclic) {n : Nat} {trail : List String} {name : String}
    (h : c.Trail (name :: trail)) (hn : c.aliases.length ≤ n + trail.length) :
    c.sizeWithin (n + 1) name = c.sizeWithin n name := by
  induction n generalizing trail name with
  | zero =>
    rw [Nat.zero_add] at hn
    exact sizeFrom_of_none (hc.expansion?_eq_none h hn)
  | succ n ih =>
    rw [sizeWithin, sizeWithin]
    cases hexpansion : c.expansion? name with
    | none => rw [sizeFrom_of_none hexpansion, sizeFrom_of_none hexpansion]
    | some expansion =>
      rw [sizeFrom_of_some hexpansion, sizeFrom_of_some hexpansion]
      congr 2
      refine List.map_congr_left fun other hother => ?_
      refine ih (h.cons ⟨expansion, hexpansion, hother⟩) ?_
      rw [List.length_cons]
      omega

/-- **A name has a size.** It is replaced, and so are the names in what it stands for. -/
theorem Acyclic.size_eq (hc : c.Acyclic) (name : String) :
    c.size name = c.sizeFrom c.size name := by
  have htrail : c.Trail [name] := .singleton name
  exact (hc.sizeWithin_succ htrail (Nat.le_refl _)).symm

/-- **Aliases are acyclic if and only if all of them have sizes.** -/
theorem acyclic_iff :
    c.Acyclic ↔ ∀ name ∈ c.aliases.map Prod.fst, c.size name = c.sizeFrom c.size name := by
  constructor
  · exact fun hc name _ => hc.size_eq name
  · intro h
    -- a name is larger than any name that it refers to
    have hlt : ∀ name other, c.RefersTo name other → c.size other < c.size name := by
      rintro name other ⟨expansion, hexpansion, hother⟩
      have hmem := List.mem_map_of_mem (f := Prod.fst) (mem_aliases_of_expansion? hexpansion)
      have hle := List.single_le_sum (fun _ _ => Nat.zero_le _) _
        (List.mem_map_of_mem (f := c.size) hother)
      rw [h name hmem, sizeFrom_of_some hexpansion]
      omega
    intro name hcycle
    have htrans : Relation.TransGen (fun n m : Nat => m < n) (c.size name) (c.size name) :=
      Relation.TransGen.lift c.size hlt _ _ hcycle
    rw [Relation.transGen_eq_self] at htrans
    exact Nat.lt_irrefl _ htrans

instance : Decidable c.Acyclic := decidable_of_iff _ acyclic_iff.symm

/-! ## The bound -/

/-- No name stands for more words than the longest alias has. -/
theorem length_le_longest {name : String} {expansion : List (Kind × String)}
    (h : c.expansion? name = some expansion) : expansion.length ≤ c.longest :=
  List.le_max_of_le (List.mem_map_of_mem (mem_aliases_of_expansion? h)) (Nat.le_refl _)

/-- There are no more names than words. -/
theorem length_namesOf_le (words : List (Kind × String)) :
    (namesOf words).length ≤ words.length := by
  rw [namesOf, List.length_map]
  exact List.length_filter_le _ _

/-- The size that is found in some rounds stays below the power with that exponent. -/
theorem longest_mul_sizeWithin_lt (n : Nat) (name : String) :
    c.longest * c.sizeWithin n name < (c.longest + 2) ^ n := by
  induction n generalizing name with
  | zero => exact Nat.one_pos
  | succ n ih =>
    rw [sizeWithin]
    cases hexpansion : c.expansion? name with
    | none =>
      rw [sizeFrom_of_none hexpansion]
      exact Nat.pow_pos (Nat.succ_pos _)
    | some expansion =>
      rw [sizeFrom_of_some hexpansion]
      have hcount := (length_namesOf_le expansion).trans (length_le_longest hexpansion)
      have hpos : 0 < (c.longest + 2) ^ n := Nat.pow_pos (Nat.succ_pos _)
      obtain ⟨bound, hbound⟩ := Nat.exists_eq_add_one.2 hpos
      have hsum : c.longest * ((namesOf expansion).map (c.sizeWithin n)).sum ≤
          c.longest * bound := calc
        c.longest * ((namesOf expansion).map (c.sizeWithin n)).sum
        _ = ((namesOf expansion).map fun other => c.longest * c.sizeWithin n other).sum :=
          (List.sum_map_mul_left _ _ _).symm
        _ ≤ (namesOf expansion).length * bound := by
          refine (List.sum_le_card_nsmul _ bound fun k hk => ?_).trans_eq ?_
          · obtain ⟨other, -, rfl⟩ := List.mem_map.1 hk
            exact Nat.le_of_lt_succ ((ih other).trans_eq hbound)
          · rw [List.length_map, smul_eq_mul]
        _ ≤ c.longest * bound := Nat.mul_le_mul_right _ hcount
      rw [Nat.pow_succ, hbound]
      linarith

/-- **No name stands for more than the budget has room for.** -/
theorem longest_mul_size_lt (c : Calculator) (name : String) :
    c.longest * c.size name < (c.longest + 2) ^ c.aliases.length :=
  longest_mul_sizeWithin_lt _ name

/-! ## Tokens -/

section Tokens

variable {t : Token Kind} {ts us rest : List (Token Kind)}

/-- What tokens are and what they say. -/
def wordsOf (ts : List (Token Kind)) : List (Kind × String) := ts.map fun t => (t.kind, t.value)

/-- How many names are replaced until none is left among some tokens. -/
def total (c : Calculator) (ts : List (Token Kind)) : Nat :=
  ((namesOf (wordsOf ts)).map c.size).sum

theorem total_nil (c : Calculator) : c.total [] = 0 := rfl

/-- A name adds its size to the total. -/
theorem total_cons_of_ident (ht : t.kind = .ident) :
    c.total (t :: ts) = c.size t.value + c.total ts := by
  simp [total, namesOf, wordsOf, ht]

/-- A token that is not a name adds nothing to the total. -/
theorem total_cons_of_ne (ht : t.kind ≠ .ident) : c.total (t :: ts) = c.total ts := by
  simp [total, namesOf, wordsOf, ht]

/-- The totals of two pieces add up. -/
theorem total_append (ts us : List (Token Kind)) :
    c.total (ts ++ us) = c.total ts + c.total us := by
  simp [total, namesOf, wordsOf]

/-- Without its first token a stream has no more names to be replaced than with it. -/
theorem total_le_cons (c : Calculator) (t : Token Kind) (ts : List (Token Kind)) :
    c.total ts ≤ c.total (t :: ts) :=
  (Nat.le_add_left _ _).trans_eq (total_append [t] ts).symm

/-- **When a name is replaced, one of the names that are to be replaced is done with.** -/
theorem Acyclic.size_of_replacement? (hc : c.Acyclic) (hus : c.replacement? t = some us) :
    c.size t.value = 1 + c.total us := by
  obtain ⟨expansion, hexpansion, rfl⟩ := Option.map_eq_some_iff.1 hus
  rw [hc.size_eq, sizeFrom_of_some hexpansion]
  simp [total, wordsOf, Function.comp_def]

/-- What is left to do in front of some tokens: they are accepted, and so is what takes the place of
the names, each of which stands for no more than the longest expansion. -/
def load (c : Calculator) (ts : List (Token Kind)) : Nat := ts.length + c.longest * c.total ts

/-- Without its first token a stream leaves less to do. -/
theorem load_lt_cons (c : Calculator) (t : Token Kind) (ts : List (Token Kind)) :
    c.load ts < c.load (t :: ts) := by
  have htotal := Nat.mul_le_mul_left c.longest (c.total_le_cons t ts)
  rw [load, load, List.length_cons]
  omega

/-- **To replace a name leaves less to do**, however long that is what takes its place. -/
theorem Acyclic.load_replacement?_lt (hc : c.Acyclic) (ht : t.kind = .ident)
    (hus : c.replacement? t = some us) (rest : List (Token Kind)) :
    c.load (us ++ rest) < c.load (t :: rest) := by
  obtain ⟨expansion, hexpansion, rfl⟩ := Option.map_eq_some_iff.1 hus
  have hlength := length_le_longest hexpansion
  rw [load, load, total_append, total_cons_of_ident ht, hc.size_of_replacement? hus,
    List.length_append, List.length_map, List.length_cons]
  linarith

/-- There is no more left to do for each of the tokens than the power of the budget. -/
theorem load_le (c : Calculator) (ts : List (Token Kind)) :
    c.load ts ≤ ts.length * (c.longest + 2) ^ c.aliases.length := by
  induction ts with
  | nil => exact Nat.zero_le _
  | cons t ts ih =>
    have hhead : c.load [t] ≤ (c.longest + 2) ^ c.aliases.length := by
      rw [load, List.length_singleton]
      by_cases ht : t.kind = .ident
      · have hsize := c.longest_mul_size_lt t.value
        rw [total_cons_of_ident ht, total_nil, Nat.add_zero]
        omega
      · rw [total_cons_of_ne ht, total_nil]
        exact Nat.pow_pos (Nat.succ_pos _)
    have hload : c.load (t :: ts) = c.load [t] + c.load ts := by
      rw [← List.singleton_append, load, load, load, total_append, List.length_append]
      ring
    rw [hload, List.length_cons]
    linarith

/-- **The budget is enough** for three steps for each token, and for three more. -/
theorem load_lt_budget (c : Calculator) (ts : List (Token Kind)) :
    3 * c.load ts + 3 ≤ c.budget ts.length := by
  have hload := c.load_le ts
  have hpos : 0 < (c.longest + 2) ^ c.aliases.length := Nat.pow_pos (Nat.succ_pos _)
  change 3 * c.load ts + 3 ≤ 4 * (ts.length + 1024) * (c.longest + 2) ^ c.aliases.length
  linarith

end Tokens

end Descent.Calculator
