import Descent.Proofs.Pattern.LookAhead

/-!
# Patterns that take runs

Many patterns of lexicons take a character of one set and then as many characters of another as
there are: such as digits, names, white space, and what goes to the end of a line. What a pattern
takes is then a run (`Pattern.Takes`), and no more need be known of how it is matched. Whether a
pattern is of this kind, and which run it takes, can be read off its expression (`Pattern.run?`).
-/

namespace Descent.Pattern

open Text (Place)

/-- A character of one set, and then as many characters of another as there are. -/
structure Run where
  /-- the characters that a run begins with -/
  first : CharSet
  /-- the characters that it goes on with -/
  more : CharSet
deriving DecidableEq

/-- How many characters of a text the run takes. -/
def Run.length? (run : Run) : List Char → Option Nat
  | [] => none
  | c :: cs =>
    if run.first.contains c then some ((cs.takeWhile run.more.contains).length + 1) else none

/-- What the pattern prefers at a place is the run. -/
def Takes (pattern : Pattern) (run : Run) : Prop :=
  ∀ p : Place, pattern.preferred? p = run.length? p.rest

/-- A pattern that takes a run looks ahead. -/
theorem Takes.looksAhead {pattern : Pattern} {run : Run} (h : pattern.Takes run) :
    pattern.LooksAhead :=
  looksAhead_iff.2 fun p => (h p).trans (h (.start p.rest)).symm

/-- The run that a pattern takes, if its expression says so. -/
def run? (pattern : Pattern) : Option Run :=
  match pattern.expr with
  | .leaf i => pattern.sites[i]?.map fun s => ⟨s, .empty⟩
  | .plus true (.leaf i) => pattern.sites[i]?.map fun s => ⟨s, s⟩
  | .seq (.leaf i) (.star true (.leaf j)) =>
    pattern.sites[i]?.bind fun s => pattern.sites[j]?.map fun t => ⟨s, t⟩
  | _ => none

/-! ## Matching -/

variable {sites : Sites} {s t : CharSet} {i j : Nat}

theorem reads_eq (hi : sites[i]? = some s) (c : Char) : sites.reads i c = s.contains c := by
  rw [Sites.reads, hi, Option.any_some]

/-- Before a character and behind it a loop is ready to read and ready to stop. -/
theorem ready_star (p : Place) (j : Nat) :
    ready p [[.star true (.leaf j)]] = [[.leaf j, .star true (.leaf j)], []] := rfl

/-- A loop reads as many characters of its set as there are. -/
theorem matchFrom_star (hj : sites[j]? = some s) (n : Nat) (best : Option Nat) (rest : List Char) :
    matchFrom sites [[.leaf j, .star true (.leaf j)], []] n best rest =
      some (n + (rest.takeWhile s.contains).length) := by
  induction rest generalizing n best with
  | nil => rfl
  | cons c rest ih =>
    cases hc : s.contains c with
    | true =>
      have hlength : n + 1 + (rest.takeWhile s.contains).length =
          n + ((rest.takeWhile s.contains).length + 1) := by omega
      simp [matchFrom, Stack.read?, reads_eq hj, hc, ready_star, ih, hlength]
    | false => simp [matchFrom, Stack.read?, reads_eq hj, hc]

/-- A leaf reads the first character, if it is in its set. -/
theorem matchFrom_leaf (hi : sites[i]? = some s) (below : Stack) (rest : List Char) :
    matchFrom sites [.leaf i :: below] 0 none rest =
      match rest with
      | [] => none
      | c :: cs =>
        if s.contains c then matchFrom sites (ready ⟨some c, cs⟩ [below]) 1 none cs else none := by
  cases rest with
  | nil => rfl
  | cons c cs => cases hc : s.contains c <;> simp [matchFrom, Stack.read?, reads_eq hi, hc]

/-- A leaf in front of a loop reads a run. -/
theorem matchFrom_leaf_star (hi : sites[i]? = some s) (hj : sites[j]? = some t)
    (rest : List Char) :
    matchFrom sites [[.leaf i, .star true (.leaf j)]] 0 none rest = Run.length? ⟨s, t⟩ rest := by
  rw [matchFrom_leaf hi]
  cases rest with
  | nil => rfl
  | cons c cs =>
    dsimp only
    rw [ready_star, matchFrom_star hj, Nat.add_comm, Run.length?]

/-- A leaf alone reads a run of one character. -/
theorem matchFrom_leaf_alone (hi : sites[i]? = some s) (rest : List Char) :
    matchFrom sites [[.leaf i]] 0 none rest = Run.length? ⟨s, .empty⟩ rest := by
  have hmore : CharSet.empty.contains = fun _ => false := rfl
  rw [matchFrom_leaf hi]
  cases rest with
  | nil => rfl
  | cons c cs => cases cs <;> simp [matchFrom, ready, Expr.openStack, Opened.meet, Opened.note,
      Opened.none, Run.length?, hmore]

/-- **A pattern takes the run that can be read off its expression.** -/
theorem takes_of_run? {pattern : Pattern} {run : Run} (h : pattern.run? = some run) :
    pattern.Takes run := by
  intro p
  rw [preferred?, Expr.preferred?]
  unfold run? at h
  split at h
  · rename_i i hexpr
    obtain ⟨s, hi, rfl⟩ := Option.map_eq_some_iff.1 h
    rw [hexpr]
    exact matchFrom_leaf_alone hi p.rest
  · rename_i i hexpr
    obtain ⟨s, hi, rfl⟩ := Option.map_eq_some_iff.1 h
    rw [hexpr]
    exact matchFrom_leaf_star hi hi p.rest
  · rename_i i j hexpr
    obtain ⟨s, hi, h⟩ := Option.bind_eq_some_iff.1 h
    obtain ⟨t, hj, rfl⟩ := Option.map_eq_some_iff.1 h
    rw [hexpr]
    exact matchFrom_leaf_star hi hj p.rest
  · cases h

end Descent.Pattern
