import Descent.Proofs.Calculator.Derivation

/-!
# Prefixes of calculations

Which tokens can be the beginning of a calculation? To tell, it is enough to go over them once and
to keep two things in mind (`Calculator.Awaiting`): whether a factor has to come next or has just
ended, and how many parentheses are open. The operators do not matter: how they bind decides which
derivation there is, and never whether there is one.

The scan gets over some tokens if and only if they are the beginning of a calculation
(`Calculator.viable_iff`), and they are a whole one if and only if the scan has come to an operator
with no parenthesis open (`Calculator.sentence_iff`). From derivations to scans this is an induction
on the derivation. The other way is an induction on the tokens, from the left; what it is about are
the shapes that unfinished calculations have (`Calculator.Shaped`).
-/

namespace Descent.Calculator

variable {ts us : List (Token Kind)} {t : Token Kind} {d : Nat}

/-- The tokens are a calculation. -/
def Sentence (ts : List (Token Kind)) : Prop := Nonempty (Derivation .sum ts)

/-- The tokens are the beginning of a calculation. -/
def Viable (ts : List (Token Kind)) : Prop := ∃ us, Sentence us ∧ ts <+: us

theorem viable_iff_exists_append : Viable ts ↔ ∃ us, Sentence (ts ++ us) := by
  constructor
  · rintro ⟨_, hus, us, rfl⟩
    exact ⟨us, hus⟩
  · rintro ⟨us, hus⟩
    exact ⟨ts ++ us, hus, us, rfl⟩

/-! ## The scan -/

/-- What may come next, in so many open parentheses. -/
inductive Awaiting where
  /-- a factor has to begin -/
  | operand (depth : Nat)
  /-- a factor has ended -/
  | operator (depth : Nat)
deriving DecidableEq, Repr

namespace Awaiting

/-- What may come after a token, if it may come at all. -/
def step : Awaiting → Kind → Option Awaiting
  | operand d, .number => some (operator d)
  | operand d, .ident => some (operator d)
  | operand d, .minus => some (operand d)
  | operand d, .leftParen => some (operand (d + 1))
  | operator d, .plus => some (operand d)
  | operator d, .minus => some (operand d)
  | operator d, .star => some (operand d)
  | operator d, .slash => some (operand d)
  | operator (d + 1), .rightParen => some (operator d)
  | _, _ => none

/-- What may come after some tokens, if they may come at all. -/
def scan (q : Awaiting) (ts : List (Token Kind)) : Option Awaiting :=
  ts.foldlM (fun q t => q.step t.kind) q

@[simp] theorem scan_cons (q : Awaiting) (t : Token Kind) (ts : List (Token Kind)) :
    q.scan (t :: ts) = (q.step t.kind).bind (·.scan ts) := rfl

theorem scan_singleton (q : Awaiting) (t : Token Kind) : q.scan [t] = q.step t.kind :=
  bind_pure _

@[simp] theorem scan_append (q : Awaiting) (ts us : List (Token Kind)) :
    q.scan (ts ++ us) = (q.scan ts).bind (·.scan us) :=
  List.foldlM_append

/-- The least that is missing for a calculation: a factor where one has to begin, and the
parentheses that close the open ones. -/
def missing : Awaiting → List (Token Kind)
  | operand d => .bare .number :: List.replicate d (.bare .rightParen)
  | operator d => List.replicate d (.bare .rightParen)

theorem scan_missing (q : Awaiting) : q.scan q.missing = some (operator 0) := by
  have hclose (d : Nat) : (operator d).scan (operator d).missing = some (operator 0) := by
    induction d with
    | zero => rfl
    | succ d ih => exact ih
  cases q with
  | operand d => exact hclose d
  | operator d => exact hclose d

/-- An operator is followed by an operand, however it binds. -/
theorem step_operator {kind : Kind} (h : kind ∈ [.plus, .minus, .star, .slash]) (d : Nat) :
    (operator d).step kind = some (operand d) := by
  simp only [List.mem_cons, List.not_mem_nil, or_false] at h
  rcases h with rfl | rfl | rfl | rfl <;> rfl

/-- All that a step can be. -/
theorem step_cases {q q' : Awaiting} {kind : Kind} (h : q.step kind = some q') :
    (∃ d, q = operand d ∧ (kind = .number ∨ kind = .ident) ∧ q' = operator d) ∨
      (∃ d, q = operand d ∧ kind = .minus ∧ q' = operand d) ∨
      (∃ d, q = operand d ∧ kind = .leftParen ∧ q' = operand (d + 1)) ∨
      (∃ d, q = operator d ∧ kind ∈ [.plus, .minus, .star, .slash] ∧ q' = operand d) ∨
      ∃ d, q = operator (d + 1) ∧ kind = .rightParen ∧ q' = operator d := by
  unfold step at h
  split at h <;> cases h <;> simp

end Awaiting

/-! ## From derivations to scans -/

open Awaiting

/-- The scan gets over a phrase, in as many parentheses as there are. -/
theorem Derivation.scan_eq {φ : Phrase} (h : Derivation φ ts) (d : Nat) :
    (operand d).scan ts = some (operator d) := by
  induction h generalizing d with
  | ofProduct _ ih => exact ih d
  | add _ ht _ ihl ihr => simp [ihl, ihr, ht, step_operator]
  | sub _ ht _ ihl ihr => simp [ihl, ihr, ht, step_operator]
  | ofFactor _ ih => exact ih d
  | mul _ ht _ ihl ihr => simp [ihl, ihr, ht, step_operator]
  | div _ ht _ ihl ihr => simp [ihl, ihr, ht, step_operator]
  | number t ht => rw [scan_singleton, ht, step]
  | name t ht => rw [scan_singleton, ht, step]
  | neg ht _ ih => simp [ih, ht, step]
  | group ht _ hu ih =>
    rw [scan_cons, ht, step, Option.bind_some, scan_append, ih, Option.bind_some, scan_singleton,
      hu, step]

/-! ## From scans to derivations -/

/-- Behind a sum, an operator and a factor make a sum. If the operator is `*` or `/`, they belong to
the last of its products. -/
theorem Sentence.operator (h : Sentence ts) (ht : t.kind ∈ [.plus, .minus, .star, .slash])
    (f : Derivation .factor us) : Sentence (ts ++ t :: us) := by
  -- a product is extended by a rule of its own
  have hproduct {ps : List (Token Kind)} (r : Derivation .product ps)
      (hkind : t.kind = .star ∨ t.kind = .slash) :
      Nonempty (Derivation .product (ps ++ t :: us)) := by
    rcases hkind with hstar | hslash
    · exact ⟨.mul r hstar f⟩
    · exact ⟨.div r hslash f⟩
  obtain ⟨l⟩ := h
  by_cases hplus : t.kind = .plus
  · exact ⟨.add l hplus (.ofFactor f)⟩
  by_cases hminus : t.kind = .minus
  · exact ⟨.sub l hminus (.ofFactor f)⟩
  have hkind : t.kind = .star ∨ t.kind = .slash := by simp_all
  cases l with
  | ofProduct r =>
    obtain ⟨r'⟩ := hproduct r hkind
    exact ⟨.ofProduct r'⟩
  | add l hu r =>
    obtain ⟨r'⟩ := hproduct r hkind
    rw [List.append_assoc, List.cons_append]
    exact ⟨.add l hu r'⟩
  | sub l hu r =>
    obtain ⟨r'⟩ := hproduct r hkind
    rw [List.append_assoc, List.cons_append]
    exact ⟨.sub l hu r'⟩

/-- Behind the tokens, a factor makes a sum. -/
def Leads (ts : List (Token Kind)) : Prop :=
  ∀ {us : List (Token Kind)}, Derivation .factor us → Sentence (ts ++ us)

/-- The last token opens the innermost of so many parentheses, and in front of each a factor is
due. -/
inductive Opens : Nat → List (Token Kind) → Prop where
  /-- there is no parenthesis -/
  | nil : Opens 0 []
  /-- one more is opened -/
  | leftParen {d : Nat} {os ts : List (Token Kind)} {t : Token Kind} (h : Opens d os)
      (hts : Leads ts) (ht : t.kind = .leftParen) : Opens (d + 1) (os ++ (ts ++ [t]))

/-- What unfinished calculations look like: behind the innermost parenthesis that is still open
there is a sum, or all of a sum but the last factor. -/
def Shaped : Awaiting → List (Token Kind) → Prop
  | .operand d, ts => ∃ os us, ts = os ++ us ∧ Opens d os ∧ Leads us
  | .operator d, ts => ∃ os us, ts = os ++ us ∧ Opens d os ∧ Sentence us

namespace Shaped

variable {q q' : Awaiting}

theorem nil : Shaped (.operand 0) [] := ⟨[], [], rfl, .nil, fun f => ⟨.ofProduct (.ofFactor f)⟩⟩

/-- A factor of one token ends at once. -/
theorem atom (h : Shaped (.operand d) ts) (f : Derivation .factor [t]) :
    Shaped (.operator d) (ts ++ [t]) := by
  obtain ⟨os, us, rfl, hos, hus⟩ := h
  exact ⟨os, us ++ [t], List.append_assoc _ _ _, hos, hus f⟩

/-- A sign belongs to the factor that is still due. -/
theorem sign (h : Shaped (.operand d) ts) (ht : t.kind = .minus) :
    Shaped (.operand d) (ts ++ [t]) := by
  obtain ⟨os, us, rfl, hos, hus⟩ := h
  refine ⟨os, us ++ [t], List.append_assoc _ _ _, hos, fun f => ?_⟩
  rw [List.append_assoc]
  exact hus (.neg ht f)

theorem leftParen (h : Shaped (.operand d) ts) (ht : t.kind = .leftParen) :
    Shaped (.operand (d + 1)) (ts ++ [t]) := by
  obtain ⟨os, us, rfl, hos, hus⟩ := h
  refine ⟨os ++ (us ++ [t]), [], ?_, .leftParen hos hus ht, fun f => ⟨.ofProduct (.ofFactor f)⟩⟩
  rw [List.append_nil, List.append_assoc]

theorem operator (h : Shaped (.operator d) ts) (ht : t.kind ∈ [.plus, .minus, .star, .slash]) :
    Shaped (.operand d) (ts ++ [t]) := by
  obtain ⟨os, us, rfl, hos, hus⟩ := h
  refine ⟨os, us ++ [t], List.append_assoc _ _ _, hos, fun f => ?_⟩
  rw [List.append_assoc]
  exact hus.operator ht f

/-- The factor that was due in front of the parenthesis is there when it is closed. -/
theorem rightParen (h : Shaped (.operator (d + 1)) ts) (ht : t.kind = .rightParen) :
    Shaped (.operator d) (ts ++ [t]) := by
  obtain ⟨_, us, rfl, hos, ⟨s⟩⟩ := h
  cases hos with
  | @leftParen _ os vs l hos hvs hl =>
    refine ⟨os, vs ++ l :: (us ++ [t]), ?_, hos, hvs (.group hl s ht)⟩
    simp only [List.append_assoc, List.cons_append, List.nil_append]

/-- A step of the scan leads from a shape to a shape. -/
theorem step (h : Shaped q ts) (hstep : q.step t.kind = some q') : Shaped q' (ts ++ [t]) := by
  obtain ⟨d, rfl, hkind, rfl⟩ | ⟨d, rfl, hkind, rfl⟩ | ⟨d, rfl, hkind, rfl⟩ |
    ⟨d, rfl, hkind, rfl⟩ | ⟨d, rfl, hkind, rfl⟩ := step_cases hstep
  · rcases hkind with hnumber | hident
    · exact h.atom (.number t hnumber)
    · exact h.atom (.name t hident)
  · exact h.sign hkind
  · exact h.leftParen hkind
  · exact h.operator hkind
  · exact h.rightParen hkind

/-- A scan leads from a shape to a shape. -/
theorem scan (h : Shaped q ts) (hscan : q.scan us = some q') : Shaped q' (ts ++ us) := by
  induction us generalizing q ts with
  | nil =>
    obtain rfl := Option.some.inj hscan
    rwa [List.append_nil]
  | cons t us ih =>
    rw [scan_cons, Option.bind_eq_some_iff] at hscan
    obtain ⟨q₁, hstep, hrest⟩ := hscan
    have hshaped := ih (h.step hstep) hrest
    rwa [List.append_assoc, List.singleton_append] at hshaped

end Shaped

/-! ## Calculations and their beginnings -/

/-- **The scan tells calculations.** -/
theorem sentence_iff : Sentence ts ↔ (operand 0).scan ts = some (operator 0) := by
  constructor
  · rintro ⟨s⟩
    exact s.scan_eq 0
  · intro h
    -- no parenthesis is open, so the last sum is all there is
    obtain ⟨_, us, hts, hos, hus⟩ := Shaped.nil.scan h
    cases hos
    obtain rfl : ts = us := hts
    exact hus

/-- What the scan gets over is the beginning of a calculation: what is missing can be put behind
it. -/
theorem sentence_append_missing {q : Awaiting} (h : (operand 0).scan ts = some q) :
    Sentence (ts ++ q.missing) := by
  rw [sentence_iff, scan_append, h]
  exact q.scan_missing

/-- **The scan tells the beginnings of calculations.** -/
theorem viable_iff : Viable ts ↔ ∃ q, (operand 0).scan ts = some q := by
  rw [viable_iff_exists_append]
  constructor
  · rintro ⟨us, hus⟩
    rw [sentence_iff, scan_append, Option.bind_eq_some_iff] at hus
    obtain ⟨q, hq, -⟩ := hus
    exact ⟨q, hq⟩
  · rintro ⟨q, hq⟩
    exact ⟨q.missing, sentence_append_missing hq⟩

end Descent.Calculator
