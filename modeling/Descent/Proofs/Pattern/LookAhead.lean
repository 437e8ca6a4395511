import Descent.Proofs.Lexer.Checked

/-!
# Patterns that look ahead

What a pattern finds from a place on may depend on the character before the place, but only if it
asks about it. A pattern looks ahead if it does not (`Pattern.LooksAhead`): what is found from a
boundary on is found in the text that begins there, and the offsets are as many bytes apart as there
are before the boundary. It is enough that what is preferred at a place depends on the text behind
it alone (`Pattern.looksAhead_iff`), and whether an expression asks about anything else can be seen
from the expression (`Pattern.looksAhead_of_expr`).
-/

namespace Descent.Pattern

open Text (Place)

/-- The pattern finds from a boundary on what it finds in the text that begins there. -/
def LooksAhead (pattern : Pattern) : Prop :=
  ∀ before after : List Char,
    pattern.search? (Text.byteLength before) before.getLast? after =
      (pattern.search? 0 none after).map fun (start, stop) =>
        (Text.byteLength before + start, Text.byteLength before + stop)

/-! ## What is preferred -/

section Preferred

variable {pattern : Pattern}

/-- If what is preferred depends on the text behind the place alone, then so does what is found. -/
theorem search?_add (h : ∀ p : Place, pattern.preferred? p = pattern.preferred? (.start p.rest))
    (n offset : Nat) (prev prev' : Option Char) (rest : List Char) :
    pattern.search? (n + offset) prev rest =
      (pattern.search? offset prev' rest).map fun (start, stop) => (n + start, n + stop) := by
  induction rest generalizing offset prev prev' with
  | nil =>
    have hprev := (h ⟨prev, []⟩).trans (h ⟨prev', []⟩).symm
    cases hk : pattern.preferred? ⟨prev', []⟩ with
    | none => rw [search?, search?, hprev, hk, Option.map_none]
    | some k =>
      rw [search?_of_preferred? (hprev.trans hk), search?_of_preferred? hk, Option.map_some,
        Nat.add_assoc]
  | cons c rest ih =>
    have hprev := (h ⟨prev, c :: rest⟩).trans (h ⟨prev', c :: rest⟩).symm
    cases hk : pattern.preferred? ⟨prev', c :: rest⟩ with
    | none =>
      rw [search?, search?, hprev, hk]
      dsimp only
      rw [Nat.add_assoc, ih _ (some c) (some c)]
    | some k =>
      rw [search?_of_preferred? (hprev.trans hk), search?_of_preferred? hk, Option.map_some,
        Nat.add_assoc]

/-- What looks ahead prefers the same at a place as at the start of the text behind it. -/
theorem LooksAhead.preferred?_eq (h : pattern.LooksAhead) (p : Place) :
    pattern.preferred? p = pattern.preferred? (.start p.rest) := by
  obtain ⟨prev, rest⟩ := p
  have hsearch := h prev.toList rest
  rw [show prev.toList.getLast? = prev by cases prev <;> rfl] at hsearch
  generalize Text.byteLength prev.toList = n at hsearch
  change pattern.preferred? ⟨prev, rest⟩ = pattern.preferred? ⟨none, rest⟩
  cases hprev : pattern.preferred? ⟨prev, rest⟩ with
  | none =>
    cases hstart : pattern.preferred? ⟨none, rest⟩ with
    | none => rfl
    | some k =>
      -- what is preferred at the start would be found at the place
      rw [search?_of_preferred? hstart] at hsearch
      exact absurd (lt_of_search? hprev hsearch) (Nat.lt_irrefl n)
  | some k =>
    cases hstart : pattern.preferred? ⟨none, rest⟩ with
    | none =>
      rw [search?_of_preferred? hprev] at hsearch
      obtain ⟨⟨start, stop⟩, hfound, heq⟩ := Option.map_eq_some_iff.1 hsearch.symm
      have hlt := lt_of_search? hstart hfound
      have hstart := (Prod.mk.inj heq).1
      omega
    | some j =>
      rw [search?_of_preferred? hprev, search?_of_preferred? hstart, Option.map_some] at hsearch
      obtain ⟨-, hstop⟩ := Prod.mk.inj (Option.some.inj hsearch)
      -- texts of as many bytes that one text begins with are the same
      have hbytes : Text.byteLength (rest.take k) = Text.byteLength (rest.take j) := by omega
      have happ : rest.take k ++ rest.drop k = rest.take j ++ rest.drop j := by
        rw [List.take_append_drop, List.take_append_drop]
      have hlength := congrArg List.length (Text.append_inj_of_byteLength_eq happ hbytes).1
      rw [List.length_take_of_le (le_of_preferred? hprev),
        List.length_take_of_le (le_of_preferred? hstart)] at hlength
      rw [hlength]

theorem looksAhead_iff :
    pattern.LooksAhead ↔
      ∀ p : Place, pattern.preferred? p = pattern.preferred? (.start p.rest) := by
  refine ⟨LooksAhead.preferred?_eq, fun h before after => ?_⟩
  exact search?_add h (Text.byteLength before) 0 _ _ after

end Preferred

/-! ## What an expression asks about -/

/-- Does the answer depend on the character before the place? -/
def Look.looksBehind : Look → Bool
  | endText => false
  | endLine .lf => false
  | word .stopHalf _ => false
  | _ => true

/-- Does the expression ask about the character before a place? -/
def Expr.looksBehind : Expr → Bool
  | empty => false
  | leaf _ => false
  | look l => l.looksBehind
  | seq a b => a.looksBehind || b.looksBehind
  | alt a b => a.looksBehind || b.looksBehind
  | star _ sub => sub.looksBehind
  | plus _ sub => sub.looksBehind
  | exactly _ sub => sub.looksBehind
  | upTo _ _ sub => sub.looksBehind

theorem Look.holds_congr {l : Look} (hl : l.looksBehind = false) {p q : Place}
    (hrest : p.rest = q.rest) : l.holds p = l.holds q := by
  cases l with
  | startText => cases hl
  | endText => rw [holds, holds, hrest]
  | startLine ends => cases hl
  | endLine ends =>
    cases ends with
    | lf => rw [holds, holds, Place.next?, Place.next?, hrest]
    | crlf => cases hl
  | word side ascii =>
    cases side with
    | stopHalf => simp only [holds, WordSide.holds, Place.next?, hrest]
    | _ => cases hl

/-- An expression that does not ask about what is before a place is opened at all places alike that
have the same behind them. -/
theorem Expr.openAt_congr {e : Expr} (he : e.looksBehind = false) {p q : Place}
    (hrest : p.rest = q.rest) : e.openAt p = e.openAt q := by
  induction e with
  | empty | leaf => rfl
  | look l =>
    funext below after
    simp only [openAt, Look.holds_congr he hrest]
  | seq a b iha ihb | alt a b iha ihb =>
    obtain ⟨ha, hb⟩ := Bool.or_eq_false_iff.1 he
    funext below after
    simp only [openAt, iha ha, ihb hb]
  | star greedy sub ih | plus greedy sub ih | exactly n sub ih | upTo greedy n sub ih =>
    funext below after
    simp only [openAt, ih he]

theorem Expr.preferred?_congr {e : Expr} (he : e.looksBehind = false) (sites : Sites) {p q : Place}
    (hrest : p.rest = q.rest) : e.preferred? sites p = e.preferred? sites q := by
  have hready : ready p [[e]] = ready q [[e]] := by
    simp only [ready, List.foldl_cons, List.foldl_nil, openStack, openAt_congr he hrest]
  rw [preferred?, preferred?, hready, hrest]

/-- **Whether a pattern looks ahead can be seen from its expression.** -/
theorem looksAhead_of_expr {pattern : Pattern} (h : pattern.expr.looksBehind = false) :
    pattern.LooksAhead :=
  looksAhead_iff.2 fun _ => Expr.preferred?_congr h pattern.sites rfl

end Descent.Pattern
