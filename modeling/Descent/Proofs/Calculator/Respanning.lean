import Descent.Proofs.Calculator.Lookahead
import Descent.Proofs.Calculator.Steps
import Descent.Proofs.Cursor.Respanning

/-!
# Spans have no say in a calculation

Two calculations are compared whose tokens have the same kinds and values, but other places, and may
be those of different texts (`Calculator.Matching`). A pair of grammars respans
(`Calculator.Respans`) if from states that match it comes to states that match, with results that
are related. Everything the calculator is built from does, and so does the calculator
(`Calculator.respans_whole`): it has the same value on both, or the same fault, or it complains
about the same thing (`Calculator.Failure.Matches`).
-/

namespace Descent.Calculator

open Grammar
open Text (Stretch)

variable {place : Stretch → Stretch} {text : String} {α β γ δ : Type}

/-! ## Runs that match -/

/-- Two states match: one cursor stands in the tokens of the other, which have other places. -/
structure Matching (place : Stretch → Stretch) (text : String) (s s' : Parser Kind × Nat) :
    Prop where
  cursor : s'.1.cursor = s.1.cursor.respan place text
  memory : s'.2 = s.2

/-- Two failures match: they are the same, or the same complaint at two cursors. -/
inductive Failure.Matches (x x' : Cursor Kind) : Failure → Failure → Prop where
  /-- something is wrong with the text -/
  | diagnostic (complaint : Complaint) :
      Matches x x' (.diagnostic (x.complain complaint)) (.diagnostic (x'.complain complaint))
  /-- a number does not fit -/
  | fault (f : Fault) : Matches x x' (.fault f) (.fault f)
  /-- there is no end to it -/
  | endless : Matches x x' .endless .endless

/-- Two runs end alike: in states that match, and with values that are related or failures that
match. -/
inductive Alike (place : Stretch → Stretch) (text : String) (V : α → β → Prop) :
    Except Failure α × (Parser Kind × Nat) → Except Failure β × (Parser Kind × Nat) → Prop where
  /-- both have a value -/
  | ok {a : α} {b : β} {s s' : Parser Kind × Nat} (h : Matching place text s s') (hv : V a b) :
      Alike place text V (.ok a, s) (.ok b, s')
  /-- both fail -/
  | error {e e' : Failure} {s s' : Parser Kind × Nat} (h : Matching place text s s')
      (he : Failure.Matches s.1.cursor s'.1.cursor e e') :
      Alike place text V (.error e, s) (.error e', s')

/-- From states that match, the runs of the two grammars end alike. -/
def Respans (place : Stretch → Stretch) (text : String) (V : α → β → Prop) (g : Calculation α)
    (g' : Calculation β) : Prop :=
  ∀ ⦃s s'⦄, Matching place text s s' → Alike place text V (g.exec s) (g'.exec s')

namespace Respans

variable {V : α → β → Prop} {W : γ → δ → Prop}

theorem pure {a : α} {b : β} (hv : V a b) :
    Respans place text V (pure a : Calculation α) (pure b : Calculation β) :=
  fun _ _ h => .ok h hv

theorem fault (f : Fault) :
    Respans place text V (throw (.fault f) : Calculation α) (throw (.fault f) : Calculation β) :=
  fun _ _ h => .error h (.fault f)

theorem endless :
    Respans place text V (throw .endless : Calculation α) (throw .endless : Calculation β) :=
  fun _ _ h => .error h .endless

/-- Both runs complain about the same thing, each at its own cursor. -/
theorem complain (complaint : Complaint) :
    Respans place text V (blame (·.complain complaint) : Calculation α)
      (blame (·.complain complaint) : Calculation β) :=
  fun _ _ h => .error h (.diagnostic complaint)

/-- Both runs have something ahead, or neither has. -/
theorem mismatch : Respans place text V (blame Cursor.mismatch : Calculation α)
    (blame Cursor.mismatch : Calculation β) := by
  intro s s' h
  obtain ⟨complaint, heq, heq'⟩ := s.1.cursor.exists_mismatch_respan place text
  rw [← h.cursor] at heq'
  refine .error h ?_
  rw [heq, heq']
  exact .diagnostic complaint

/-- Related values are gone on from. -/
theorem bind {g : Calculation α} {g' : Calculation β} {f : α → Calculation γ}
    {f' : β → Calculation δ} (hg : Respans place text V g g')
    (hf : ∀ a b, V a b → Respans place text W (f a) (f' b)) :
    Respans place text W (g >>= f) (g' >>= f') := by
  intro s s' h
  have halike := hg h
  rw [exec_bind, exec_bind]
  generalize g.exec s = r at halike
  generalize g'.exec s' = r' at halike
  cases halike with
  | ok h hv => exact hf _ _ hv h
  | error h he => exact .error h he

/-- A choice that does not depend on spans respans if both of its ways do. -/
theorem ite {p : Prop} [Decidable p] {g h : Calculation α} {g' h' : Calculation β}
    (hg : Respans place text V g g') (hh : Respans place text V h h') :
    Respans place text V (if p then g else h) (if p then g' else h') := by
  split
  · exact hg
  · exact hh

/-! ### The cursor -/

/-- The two cursors differ in the places of their tokens. -/
theorem cursor : Respans place text (fun x x' => x' = x.respan place text)
    (Grammar.cursor : Calculation (Cursor Kind)) (Grammar.cursor : Calculation (Cursor Kind)) :=
  fun _ _ h => .ok h h.cursor

theorem modifyMemory (f : Nat → Nat) :
    Respans place text Eq (Grammar.modifyMemory f : Calculation Unit)
      (Grammar.modifyMemory f : Calculation Unit) :=
  fun _ _ h => .ok ⟨h.cursor, congrArg f h.memory⟩ rfl

/-- The same tokens are pushed, with other places. -/
theorem push (tokens : List (Token Kind)) :
    Respans place text Eq (Grammar.push tokens : Calculation Unit)
      (Grammar.push (tokens.map (Token.respan place)) : Calculation Unit) := by
  intro s s' h
  refine .ok ⟨?_, h.memory⟩ rfl
  rw [Parser.cursor_push, Parser.cursor_push, h.cursor, Cursor.push_respan]

/-- Both runs accept the same token, or none. -/
theorem accept? (kind : Kind) :
    Respans place text (fun t t' => t' = t.map (Token.respan place))
      (Grammar.accept? kind : Calculation (Option (Token Kind)))
      (Grammar.accept? kind : Calculation (Option (Token Kind))) := by
  intro s s' h
  rw [exec_accept?, exec_accept?, h.cursor, Cursor.accept?_respan]
  cases s.1.cursor.accept? kind with
  | none => exact .ok h rfl
  | some r => exact .ok ⟨rfl, h.memory⟩ rfl

/-- The closing parenthesis is there in both runs, or in neither. -/
theorem close (v : Int) : Respans place text Eq (close v) (close v) := by
  intro s s' h
  have haccept : s'.1.cursor.accept? .rightParen =
      (s.1.cursor.accept? .rightParen).map fun (t, x) =>
        (t.respan place, x.respan place text) := by
    rw [h.cursor, Cursor.accept?_respan]
  unfold Calculator.close
  rw [exec_bind, exec_bind, exec_expect, exec_expect, haccept]
  cases s.1.cursor.accept? .rightParen with
  | none => exact mismatch h
  | some r => exact .ok ⟨rfl, h.memory⟩ rfl

end Respans

/-! ## The grammar -/

/-- Whether a number fits has nothing to do with spans. -/
theorem respans_within (f : Fault) (n : Int) :
    Respans place text Eq (within f n) (within f n) :=
  .ite (.pure rfl) (.fault f)

/-- The value of a token does not depend on where it stands. -/
theorem respans_value (t : Token Kind) :
    Respans place text Eq (value t) (value (t.respan place)) := by
  rw [value, value, Token.value_respan]
  cases number? t.value with
  | some n => exact .pure rfl
  | none => exact .complain (.last "Number out of range")

/-- A quotient does not depend on where its numbers stand. -/
theorem respans_quotient (a b : Int) :
    Respans place text Eq (quotient a b) (quotient a b) :=
  .ite (.complain (.last "Division by zero")) (respans_within _ _)

/-- Put tokens in the place of a name, if they could be made. -/
def insert (made : Except Fault (List (Token Kind))) : Calculation Unit :=
  match made with
  | .error f => throw (.fault f)
  | .ok tokens => do
    modifyMemory (· + 1)
    Grammar.push tokens

/-- If the tokens could be made in one place, they can be in the other. -/
theorem respans_insert (made : Except Fault (List (Token Kind))) :
    Respans place text Eq (insert made) (insert (made.map (List.map (Token.respan place)))) := by
  cases made with
  | error f => exact .fault f
  | ok tokens => exact .bind (.modifyMemory _) fun _ _ _ => .push tokens

/-- A name stands for the same tokens, wherever it stands. -/
theorem respans_expand (hplace : Stretch.Keeps place) (c : Calculator) (name : Token Kind) :
    Respans place text Eq (c.expand name) (c.expand (name.respan place)) := by
  rw [expand, expand, Token.value_respan, Token.display_respan]
  cases c.expansion? name.value with
  | none => exact .complain (.last ("Unknown name " ++ name.display))
  | some expansion =>
    have hinsert : Respans place text Eq (insert _) (insert _) :=
      respans_insert (expansion.mapM fun item =>
        Token.make item.1 item.2 name.stretch.start name.stretch.stop)
    rw [← Token.mapM_make_respan hplace] at hinsert
    exact hinsert

/-- With an amount of steps, all functions of the grammar respan. -/
structure RespansWithin (place : Stretch → Stretch) (text : String) (c : Calculator) (n : Nat) :
    Prop where
  sum : Respans place text Eq (c.sum n) (c.sum n)
  sumFrom (v : Int) : Respans place text Eq (c.sumFrom n v) (c.sumFrom n v)
  product : Respans place text Eq (c.product n) (c.product n)
  productFrom (v : Int) : Respans place text Eq (c.productFrom n v) (c.productFrom n v)
  factor : Respans place text Eq (c.factor n) (c.factor n)

namespace RespansWithin

variable {c : Calculator} {n : Nat}

/-- Behind an operator there is an operand; the two values make one, and the function goes on. -/
theorem operator {operand : Calculation Int} {combine next : Int → Calculation Int}
    (hoperand : Respans place text Eq operand operand)
    (hcombine : ∀ w, Respans place text Eq (combine w) (combine w))
    (hnext : ∀ v, Respans place text Eq (next v) (next v)) :
    Respans place text Eq (operand >>= fun w => combine w >>= next)
      (operand >>= fun w => combine w >>= next) := by
  refine .bind hoperand ?_
  rintro w _ rfl
  refine .bind (hcombine w) ?_
  rintro v _ rfl
  exact hnext v

/-- Both runs find the same operator, or none. -/
theorem sumFrom_succ (h : RespansWithin place text c n) (v : Int) :
    Respans place text Eq (c.sumFrom (n + 1) v) (c.sumFrom (n + 1) v) := by
  rw [Calculator.sumFrom]
  refine .bind (.accept? _) ?_
  rintro plus _ rfl
  rw [Option.isSome_map]
  refine .ite (operator h.product (fun w => respans_within _ _) h.sumFrom)
    (.bind (.accept? _) ?_)
  rintro minus _ rfl
  rw [Option.isSome_map]
  exact .ite (operator h.product (fun w => respans_within _ _) h.sumFrom) (.pure rfl)

/-- Both runs find the same operator, or none. -/
theorem productFrom_succ (h : RespansWithin place text c n) (v : Int) :
    Respans place text Eq (c.productFrom (n + 1) v) (c.productFrom (n + 1) v) := by
  rw [Calculator.productFrom]
  refine .bind (.accept? _) ?_
  rintro star _ rfl
  rw [Option.isSome_map]
  refine .ite (operator h.factor (fun w => respans_within _ _) h.productFrom)
    (.bind (.accept? _) ?_)
  rintro slash _ rfl
  rw [Option.isSome_map]
  exact .ite (operator h.factor (fun w => respans_quotient _ _) h.productFrom) (.pure rfl)

/-- Both runs find the same kind ahead, and go on in the same way. -/
theorem factor_succ (hplace : Stretch.Keeps place) (h : RespansWithin place text c n) :
    Respans place text Eq (c.factor (n + 1)) (c.factor (n + 1)) := by
  rw [Calculator.factor]
  refine .bind (.accept? _) ?_
  rintro number _ rfl
  cases number with
  | some t => exact respans_value t
  | none =>
    refine .bind (.accept? _) ?_
    rintro minus _ rfl
    rw [Option.isSome_map]
    refine .ite (.bind h.factor ?_) (.bind (.accept? _) ?_)
    · rintro w _ rfl
      exact respans_within _ _
    rintro left _ rfl
    rw [Option.isSome_map]
    refine .ite (.bind h.sum ?_) (.bind (.accept? _) ?_)
    · rintro w _ rfl
      exact .close w
    rintro name _ rfl
    cases name with
    | some t => exact .bind (respans_expand hplace c t) fun _ _ _ => h.factor
    | none => exact .mismatch

end RespansWithin

/-- Whatever the amount of steps is, the functions of the grammar respan. -/
theorem respansWithin (hplace : Stretch.Keeps place) (text : String) (c : Calculator) (n : Nat) :
    RespansWithin place text c n := by
  induction n with
  | zero => exact ⟨.endless, fun _ => .endless, .endless, fun _ => .endless, .endless⟩
  | succ n ih =>
    refine ⟨.bind ih.product ?_, ih.sumFrom_succ, .bind ih.factor ?_, ih.productFrom_succ,
      ih.factor_succ hplace⟩
    · rintro v _ rfl
      exact ih.sumFrom v
    · rintro v _ rfl
      exact ih.productFrom v

/-- With every amount of steps, spans have no say in a calculation. -/
theorem respans_wholeWithin (hplace : Stretch.Keeps place) (text : String) (c : Calculator)
    (n : Nat) : Respans place text Eq (c.wholeWithin n) (c.wholeWithin n) := by
  refine .bind (respansWithin hplace text c n).sum ?_
  rintro v _ rfl
  refine .bind .cursor ?_
  rintro x _ rfl
  rw [Cursor.isExhausted_respan]
  exact .ite (.pure rfl) (.complain .unexpected)

/-- **Spans have no say in a calculation.** -/
theorem respans_whole (hplace : Stretch.Keeps place) (text : String) (c : Calculator) :
    Respans place text Eq c.whole c.whole := by
  intro s s' h
  have hlength : s'.1.cursor.stream.length = s.1.cursor.stream.length := by
    rw [h.cursor, Cursor.stream_respan, List.length_map]
  rw [exec_whole, exec_whole, hlength]
  exact respans_wholeWithin hplace text c _ h

end Descent.Calculator
