import Mathlib.Data.List.Basic
import Mathlib.Tactic.Common
import Descent.Pattern.Match

/-!
# The languages of patterns

What a pattern can match is a relation between places: it leads from a place to those that can be
reached by matching it there (`Language`). It is a relation between places and not a set of texts,
because what holds at a place depends on the text around it.

Forms and expressions have languages, and which of several ways on is preferred has no part in them.
-/

namespace Descent.Pattern

open Text (Place)

/-- From which place to which one something leads. -/
abbrev Language := Place → Place → Prop

namespace Language

/-- The empty text. -/
def unit : Language := fun p q => p = q

/-- One language and then the other. -/
def seq (a b : Language) : Language := fun p q => ∃ r, a p r ∧ b r q

/-- One language, or else the other. -/
def alt (a b : Language) : Language := fun p q => a p q ∨ b p q

/-- Some languages, one after the other. -/
def seqs : List Language → Language
  | [] => unit
  | a :: as => a.seq (seqs as)

/-- One of some languages. -/
def alts (as : List Language) : Language := fun p q => ∃ a ∈ as, a p q

/-- A language a number of times. -/
def times (a : Language) : Nat → Language
  | 0 => unit
  | n + 1 => a.seq (a.times n)

/-- A language up to a number of times, or any number of times. -/
def upTo (max : Option Nat) (a : Language) : Language := fun p q =>
  ∃ n, (∀ m ∈ max, n ≤ m) ∧ a.times n p q

/-- A language `min` times, and then again until it has come `max` times at most. -/
def repeated (min : Nat) (max : Option Nat) (a : Language) : Language :=
  (a.times min).seq (a.upTo (max.map (· - min)))

/-- One character that passes a test. -/
inductive char (test : Char → Bool) : Language where
  | read {prev : Option Char} {c : Char} {rest : List Char} (hc : test c = true) :
      char test ⟨prev, c :: rest⟩ ⟨some c, rest⟩

/-- A text, character by character. -/
def text : List Char → Language
  | [] => unit
  | c :: cs => (char (· == c)).seq (text cs)

/-- The empty text, where the place answers the question with yes. -/
def look (l : Look) : Language := fun p q => l.holds p = true ∧ p = q

variable {a b c : Language}

/-! ## Algebra -/

theorem seq_unit (a : Language) : a.seq unit = a := by
  funext p q
  refine propext ⟨?_, fun h => ⟨q, h, rfl⟩⟩
  rintro ⟨r, h, rfl⟩
  exact h

theorem unit_seq (a : Language) : unit.seq a = a := by
  funext p q
  refine propext ⟨?_, fun h => ⟨p, rfl, h⟩⟩
  rintro ⟨r, rfl, h⟩
  exact h

theorem seq_assoc (a b c : Language) : (a.seq b).seq c = a.seq (b.seq c) := by
  funext p q
  refine propext ⟨?_, ?_⟩
  · rintro ⟨r, ⟨s, ha, hb⟩, hc⟩
    exact ⟨s, ha, r, hb, hc⟩
  · rintro ⟨s, ha, r, hb, hc⟩
    exact ⟨r, ⟨s, ha, hb⟩, hc⟩

theorem alt_comm (a b : Language) : a.alt b = b.alt a := by
  funext p q
  exact propext or_comm

/-- To match all of two lists is to match those of the first and then those of the second. -/
theorem seqs_append (as bs : List Language) : seqs (as ++ bs) = (seqs as).seq (seqs bs) := by
  induction as with
  | nil => exact (unit_seq _).symm
  | cons a as ih => rw [List.cons_append, seqs, ih, seqs, seq_assoc]

theorem alts_cons (a : Language) (as : List Language) : alts (a :: as) = a.alt (alts as) := by
  funext p q
  exact propext (List.exists_mem_cons_iff _ a as)

theorem alts_singleton (a : Language) : alts [a] = a := by
  funext p q
  simp only [alts, List.mem_singleton, exists_eq_left]

/-- To match one of two lists is to match one of the first or one of the second. -/
theorem alts_append (as bs : List Language) : alts (as ++ bs) = (alts as).alt (alts bs) := by
  funext p q
  simp only [alts, alt, List.mem_append, or_and_right, exists_or]

/-- What all the languages of a choice begin with can stand before it. -/
theorem seq_alts (a : Language) (as : List Language) : a.seq (alts as) = alts (as.map a.seq) := by
  funext p q
  refine propext ⟨?_, ?_⟩
  · rintro ⟨r, ha, b, hb, h⟩
    exact ⟨a.seq b, List.mem_map_of_mem hb, r, ha, h⟩
  · rintro ⟨_, hb, h⟩
    obtain ⟨b, hmem, rfl⟩ := List.mem_map.1 hb
    obtain ⟨r, ha, h⟩ := h
    exact ⟨r, ha, b, hmem, h⟩

/-- One of some characters is a character that passes one of the tests. -/
theorem alts_char {tests : List (Char → Bool)} {test : Char → Bool}
    (h : ∀ c, test c = true ↔ ∃ t ∈ tests, t c = true) : alts (tests.map char) = char test := by
  funext p q
  refine propext ⟨?_, ?_⟩
  · rintro ⟨_, ht, hread⟩
    obtain ⟨t, hmem, rfl⟩ := List.mem_map.1 ht
    obtain ⟨hc⟩ := hread
    exact .read ((h _).2 ⟨t, hmem, hc⟩)
  · rintro ⟨hc⟩
    obtain ⟨t, ht, hc⟩ := (h _).1 hc
    exact ⟨char t, List.mem_map_of_mem ht, .read hc⟩

/-- Two texts side by side are one text. -/
theorem text_append (cs ds : List Char) : text (cs ++ ds) = (text cs).seq (text ds) := by
  induction cs with
  | nil => exact (unit_seq _).symm
  | cons c cs ih => rw [List.cons_append, text, ih, text, seq_assoc]

/-! ## Repetitions -/

/-- A number of times and then another number of times. -/
theorem times_add (a : Language) (m n : Nat) : a.times (m + n) = (a.times m).seq (a.times n) := by
  induction m with
  | zero => rw [Nat.zero_add, times, unit_seq]
  | succ m ih => rw [Nat.add_right_comm, times, times, ih, seq_assoc]

theorem times_one (a : Language) : a.times 1 = a := seq_unit a

/-- What may come no times comes no times, or it comes once first. -/
theorem upTo_succ (max : Option Nat) (a : Language) :
    a.upTo (max.map (· + 1)) = unit.alt (a.seq (a.upTo max)) := by
  funext p q
  refine propext ⟨?_, ?_⟩
  · rintro ⟨_ | n, hmax, h⟩
    · exact .inl h
    · obtain ⟨r, ha, h⟩ := h
      refine .inr ⟨r, ha, n, fun m hm => ?_, h⟩
      exact Nat.le_of_succ_le_succ (hmax (m + 1) (by rw [hm]; rfl))
  · rintro (h | ⟨r, ha, n, hmax, h⟩)
    · exact ⟨0, fun _ _ => Nat.zero_le _, h⟩
    · refine ⟨n + 1, fun m hm => ?_, r, ha, h⟩
      obtain ⟨m', hm', rfl⟩ := Option.map_eq_some_iff.1 hm
      exact Nat.succ_le_succ (hmax m' hm')

/-- What may not come at all is the empty text. -/
theorem upTo_zero (a : Language) : a.upTo (some 0) = unit := by
  funext p q
  refine propext ⟨?_, fun h => ⟨0, fun _ _ => Nat.zero_le _, h⟩⟩
  rintro ⟨n, hmax, h⟩
  rwa [Nat.le_zero.1 (hmax 0 rfl)] at h

/-- What need not come leads from each place to itself. -/
theorem upTo_self (max : Option Nat) (a : Language) (p : Place) : a.upTo max p p :=
  ⟨0, fun _ _ => Nat.zero_le _, rfl⟩

/-- What need not come at all may come up to its greatest number. -/
theorem repeated_zero (max : Option Nat) (a : Language) : a.repeated 0 max = a.upTo max := by
  have hmax : max.map (· - 0) = max := by cases max <;> rfl
  rw [repeated, times, unit_seq, hmax]

/-- What comes at least as often as at most comes so many times. -/
theorem repeated_self (n : Nat) (a : Language) : a.repeated n (some n) = a.times n := by
  have hmax : (some n).map (· - n) = some 0 := congrArg some (Nat.sub_self n)
  rw [repeated, hmax, upTo_zero, seq_unit]

/-- A language that leads nowhere else. -/
def Still (a : Language) : Prop := ∀ p q, a p q → p = q

namespace Still

/-- Two languages that do not move do not move one after the other. -/
theorem seq (ha : a.Still) (hb : b.Still) : (a.seq b).Still := by
  rintro p q ⟨r, h, h'⟩
  exact (ha p r h).trans (hb r q h')

/-- A language that does not move does not move, however often it comes. -/
theorem times (ha : a.Still) (n : Nat) : (a.times n).Still := by
  induction n with
  | zero => exact fun _ _ h => h
  | succ n ih => exact ha.seq ih

/-- To match it again says nothing. -/
theorem times_succ (ha : a.Still) (n : Nat) : a.times (n + 1) = a := by
  induction n with
  | zero => exact times_one a
  | succ n ih =>
    rw [Language.times, ih]
    funext p q
    refine propext ⟨?_, fun h => ⟨p, ?_, h⟩⟩
    · rintro ⟨r, h, h'⟩
      exact ha p r h ▸ h'
    · obtain rfl := ha p q h
      exact h

/-- A language that does not move may as well not come at all. -/
theorem upTo (ha : a.Still) (max : Option Nat) : a.upTo max = unit := by
  funext p q
  refine propext ⟨?_, fun h => ⟨0, fun _ _ => Nat.zero_le _, h⟩⟩
  rintro ⟨n, -, h⟩
  exact ha.times n p q h

/-- Of a language that does not move, only the times that it has to come say anything. -/
theorem repeated_eq (ha : a.Still) (min : Nat) (max : Option Nat) :
    a.repeated min max = a.times min := by
  rw [Language.repeated, ha.upTo, seq_unit]

/-- It matters only whether it has to match at all. -/
theorem times_min_one (ha : a.Still) (n : Nat) : a.times (Nat.min n 1) = a.times n := by
  cases n with
  | zero => rfl
  | succ n =>
    have hmin : Nat.min (n + 1) 1 = 1 := Nat.min_eq_right (Nat.le_add_left 1 n)
    rw [hmin, times_one, ha.times_succ]

end Still

end Language

/-! ## Expressions and forms -/

/-- What an expression matches. -/
def Expr.language (sites : Sites) : Expr → Language
  | .empty => .unit
  | .leaf site => .char (sites.reads site)
  | .look l => .look l
  | .seq a b => (a.language sites).seq (b.language sites)
  | .alt a b => (a.language sites).alt (b.language sites)
  | .star _ sub => (sub.language sites).upTo none
  | .plus _ sub => (sub.language sites).seq ((sub.language sites).upTo none)
  | .exactly n sub => (sub.language sites).times n
  | .upTo _ n sub => (sub.language sites).upTo (some n)

/-- What a form matches. -/
def Form.language : Form → Language
  | .empty => .unit
  | .literal text => .text text
  | .set s => .char s.contains
  | .look l => .look l
  | .repetition min max _ sub => sub.language.repeated min max
  | .capture _ sub => sub.language
  | .seq a b => a.language.seq b.language
  | .alt a b => a.language.alt b.language

end Descent.Pattern
