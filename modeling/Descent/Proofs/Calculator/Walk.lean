import Descent.Proofs.Calculator.Lookahead
import Descent.Proofs.Calculator.Steps

/-!
# The way of the cursor through a calculation

In a calculation the cursor is moved in two ways: a token is accepted, or the name that was accepted
last is replaced. Of each there is an event in the trace. So the cursor walks (`Calculator.Walks`)
along the events, and where it is after some of them is told by the events
(`Calculator.Walks.unique`).

However a function of the grammar ends, it has walked along the events that it has added to the
trace; and if it ends with a diagnostic, then the diagnostic is made where the cursor has come to
(`Calculator.Tours`, `Calculator.tours_whole`).
-/

namespace Descent.Calculator

open Grammar

variable {c : Calculator}

/-! ## Walks -/

/-- One way for the cursor to be moved, and the event that tells of it. -/
inductive Moves (c : Calculator) : Cursor Kind → Event → Cursor Kind → Prop where
  /-- the lookahead is accepted -/
  | accept {x y : Cursor Kind} {kind : Kind} {t : Token Kind} (h : x.accept? kind = some (t, y)) :
      Moves c x (.accepted t.start t.stop) y
  /-- the name that was accepted last is replaced -/
  | replace {x : Cursor Kind} {t : Token Kind} {us : List (Token Kind)} (hlast : x.last = some t)
      (hkind : t.kind = .ident) (hus : c.replacement? t = some us) :
      Moves c x (.pushed us.length) (x.push us)

/-- The cursor is moved again and again, along the events. -/
inductive Walks (c : Calculator) : Cursor Kind → List Event → Cursor Kind → Prop where
  /-- it is not moved -/
  | stay (x : Cursor Kind) : Walks c x [] x
  /-- it is moved, and then it walks on -/
  | move {x y z : Cursor Kind} {e : Event} {events : List Event} (h : Moves c x e y)
      (hrest : Walks c y events z) : Walks c x (e :: events) z

/-- As whatever kind the lookahead is accepted, the cursor is then behind it. -/
theorem accept?_unique {κ : Type} [BEq κ] {x y y' : Cursor κ} {kind kind' : κ} {t t' : Token κ}
    (h : x.accept? kind = some (t, y)) (h' : x.accept? kind' = some (t', y')) : y = y' := by
  unfold Cursor.accept? at h h'
  cases hnext : x.next with
  | none =>
    rw [hnext] at h
    cases h
  | some u =>
    simp only [hnext] at h h'
    split at h
    · split at h'
      · obtain ⟨rfl, rfl⟩ := Prod.mk.inj (Option.some.inj h)
        exact (Prod.mk.inj (Option.some.inj h')).2
      · cases h'
    · cases h

/-- The event tells where the cursor is moved. -/
theorem Moves.unique {x y y' : Cursor Kind} {e : Event} (h : Moves c x e y)
    (h' : Moves c x e y') : y = y' := by
  generalize he : e = e' at h'
  cases h with
  | accept h =>
    cases h' with
    | accept h' => exact accept?_unique h h'
    | replace => cases he
  | replace hlast _ hus =>
    cases h' with
    | accept => cases he
    | replace hlast' _ hus' =>
      obtain rfl := Option.some.inj (hlast.symm.trans hlast')
      obtain rfl := Option.some.inj (hus.symm.trans hus')
      rfl

namespace Walks

variable {x y y' z : Cursor Kind} {events events' : List Event}

/-- One walk is followed by another along the events of both. -/
theorem trans (h : Walks c x events y) (h' : Walks c y events' z) :
    Walks c x (events ++ events') z := by
  induction h with
  | stay => exact h'
  | move hmove _ ih => exact .move hmove (ih h')

/-- **The events tell where the cursor is.** -/
theorem unique (h : Walks c x events y) (h' : Walks c x events y') : y = y' := by
  induction h with
  | stay =>
    cases h'
    rfl
  | move hmove _ ih =>
    cases h' with
    | move hmove' hrest' =>
      obtain rfl := hmove.unique hmove'
      exact ih hrest'

/-- Along the way the cursor comes to one place after the other. -/
theorem exists_of_append (h : Walks c x (events ++ events') z) :
    ∃ y, Walks c x events y ∧ Walks c y events' z := by
  induction events generalizing x with
  | nil => exact ⟨x, .stay x, h⟩
  | cons e events ih =>
    cases h with
    | move hmove hrest =>
      obtain ⟨y, hy, hz⟩ := ih hrest
      exact ⟨y, .move hmove hy, hz⟩

/-- What holds at the start and is preserved by every move holds wherever the cursor comes. -/
theorem invariant {P : Cursor Kind → Prop} (h : Walks c x events y)
    (hmoves : ∀ {x y e}, Moves c x e y → P x → P y) (hx : P x) : P y := by
  induction h with
  | stay => exact hx
  | move hmove _ ih => exact ih (hmoves hmove hx)

/-- A walk that begins with a primed cursor ends with one. -/
theorem primed (h : Walks c x events y) (hx : x.Primed) : y.Primed := by
  refine h.invariant (fun hmove _ => ?_) hx
  cases hmove with
  | accept h => exact Cursor.primed_of_accept? h
  | replace => exact Cursor.primed_push _ _

/-- Wherever the cursor walks, its text is the same. -/
theorem text_eq (h : Walks c x events y) : y.text = x.text := by
  refine h.invariant (P := fun y => y.text = x.text) (fun hmove hx => ?_) rfl
  cases hmove with
  | accept h => exact (Cursor.accept?_eq_some h).2.2.2.trans hx
  | replace => exact hx

/-- Once a token has been accepted there is a last token. -/
theorem exists_last (h : Walks c x events y) {t : Token Kind} (hx : x.last = some t) :
    ∃ u, y.last = some u := by
  refine h.invariant (P := fun y => ∃ u, y.last = some u) (fun hmove hx => ?_) ⟨t, hx⟩
  cases hmove with
  | accept h => exact ⟨_, (Cursor.accept?_eq_some h).2.2.1⟩
  | replace => exact hx

end Walks

/-! ## Diagnostics -/

/-- The diagnostics that the calculator makes, by the cursor. -/
inductive Blames (c : Calculator) (x : Cursor Kind) : Diagnostic → Prop where
  /-- of what comes next -/
  | next {message : String}
      (h : message = Diagnostic.unexpectedToken ∨ message = Diagnostic.unexpectedEnd) :
      Blames c x (x.nextError message)
  /-- of a number that was accepted, or of the last token of a divisor -/
  | number {t : Token Kind} {message : String} (hlast : x.last = some t)
      (h : message = "Number out of range" ∨ message = "Division by zero") :
      Blames c x (x.lastError message)
  /-- of a name that was accepted -/
  | name {t : Token Kind} (hlast : x.last = some t) (hkind : t.kind = .ident)
      (h : c.expansion? t.value = none) :
      Blames c x (x.lastError ("Unknown name " ++ t.display))

/-- A lookahead that is not what it should be is blamed on what comes next. -/
theorem Blames.mismatch (x : Cursor Kind) : Blames c x x.mismatch := by
  unfold Cursor.mismatch
  split
  · exact .next (.inr rfl)
  · exact .next (.inl rfl)

/-! ## Tours -/

variable {s s' : Parser Kind × Nat} {α β : Type}

/-- From a state the calculator has come to another: the cursor has walked along the events that
were added to the trace. -/
def Follows (c : Calculator) (s s' : Parser Kind × Nat) : Prop :=
  ∃ events, s'.1.trace.toList = s.1.trace.toList ++ events ∧
    Walks c s.1.cursor events s'.1.cursor

namespace Follows

theorem refl (s : Parser Kind × Nat) : Follows c s s := ⟨[], (List.append_nil _).symm, .stay _⟩

/-- The events of the first way are followed by those of the second. -/
theorem trans {s₁ : Parser Kind × Nat} (h : Follows c s s₁) (h' : Follows c s₁ s') :
    Follows c s s' := by
  obtain ⟨events, htrace, hwalk⟩ := h
  obtain ⟨events', htrace', hwalk'⟩ := h'
  exact ⟨events ++ events', by rw [htrace', htrace, List.append_assoc], hwalk.trans hwalk'⟩

/-- A cursor that is primed at the start is primed wherever it comes to. -/
theorem primed (h : Follows c s s') (hs : s.1.cursor.Primed) : s'.1.cursor.Primed := by
  obtain ⟨_, -, hwalk⟩ := h
  exact hwalk.primed hs

/-- The token that was accepted last may become another one, but there is one from then on. -/
theorem exists_last (h : Follows c s s') {t : Token Kind} (hs : s.1.cursor.last = some t) :
    ∃ u, s'.1.cursor.last = some u := by
  obtain ⟨_, -, hwalk⟩ := h
  exact hwalk.exists_last hs

/-- A token that is taken adds one event, and the cursor walks along it. -/
theorem take {t : Token Kind} {rest : List (Token Kind)} (hat : s.1.At (t :: rest)) :
    Follows c s (s.1.take t, s.2) :=
  ⟨_, Parser.toList_trace_accepted t _ s.1, .move (.accept (accept?_of_at hat rfl)) (.stay _)⟩

/-- A name that is replaced adds one event, and the cursor walks along it. -/
theorem replace {t : Token Kind} {us : List (Token Kind)} (hlast : s.1.cursor.last = some t)
    (hkind : t.kind = .ident) (hus : c.replacement? t = some us) (m : Nat) :
    Follows c s (s.1.push us, m) :=
  ⟨_, Parser.toList_trace_push us s.1, .move (.replace hlast hkind hus) (.stay _)⟩

end Follows

/-- How a function of the grammar may end: the cursor has walked along the events, a diagnostic is
made where it has come to, and if a token could not be made then that is because of the span of the
last token. -/
structure Tours (c : Calculator) (s : Parser Kind × Nat)
    (r : Except Failure α × (Parser Kind × Nat)) : Prop where
  follows : Follows c s r.2
  blames : ∀ d, r.1 = .error (.diagnostic d) → Blames c r.2.1.cursor d
  broken : r.1 = .error (.fault .tokenEndsBeforeStart) →
    ∃ t, r.2.1.cursor.last = some t ∧ t.stop < t.start

namespace Tours

theorem ok (s : Parser Kind × Nat) (a : α) : Tours c s (.ok a, s) := ⟨.refl s, nofun, nofun⟩

theorem endless (s : Parser Kind × Nat) : Tours c s ((.error .endless : Except Failure α), s) :=
  ⟨.refl s, nofun, nofun⟩

/-- A function may end with a fault, unless it is that a token could not be made. -/
theorem fault {f : Fault} (hf : f ≠ .tokenEndsBeforeStart) :
    Tours c s ((.error (.fault f) : Except Failure α), s) :=
  ⟨.refl s, nofun, fun h => absurd (Failure.fault.inj (Except.error.inj h)) hf⟩

/-- A token cannot be made that would end before it starts. -/
theorem unmade {f : Fault} {t : Token Kind} (hlast : s.1.cursor.last = some t)
    (hlt : t.stop < t.start) : Tours c s ((.error (.fault f) : Except Failure α), s) :=
  ⟨.refl s, nofun, fun _ => ⟨t, hlast, hlt⟩⟩

/-- A function may end with a diagnostic of where the cursor is. -/
theorem diagnostic {d : Diagnostic} (hd : Blames c s.1.cursor d) :
    Tours c s ((.error (.diagnostic d) : Except Failure α), s) := by
  refine ⟨.refl s, fun d' h => ?_, nofun⟩
  obtain rfl := Failure.diagnostic.inj (Except.error.inj h)
  exact hd

/-- What was done before is part of the tour. -/
theorem after {r : Except Failure α × (Parser Kind × Nat)} (h : Tours c s' r)
    (hs : Follows c s s') : Tours c s r :=
  ⟨hs.trans h.follows, h.blames, h.broken⟩

/-- If the first function ends with a value, the second goes on from where it has come to. -/
theorem bind {g : Calculation α} {f : α → Calculation β} (hg : Tours c s (g.exec s))
    (hf : ∀ a s', Follows c s s' → Tours c s' ((f a).exec s')) :
    Tours c s ((g >>= f).exec s) := by
  rw [exec_bind]
  generalize g.exec s = r at hg
  obtain ⟨a | a, s'⟩ := r
  · exact ⟨hg.follows, fun d h => hg.blames d (congrArg Except.error (Except.error.inj h)),
      fun h => hg.broken (congrArg Except.error (Except.error.inj h))⟩
  · exact (hf a s' hg.follows).after hg.follows

/-! ## Values and names -/

/-- A result that does not fit is a fault, but not of a token. -/
theorem within {f : Fault} (hf : f ≠ .tokenEndsBeforeStart) (n : Int) (s : Parser Kind × Nat) :
    Tours c s ((within f n).exec s) := by
  unfold Calculator.within
  split
  · exact .ok s n
  · exact .fault hf

/-- A number that does not fit is blamed on the token, which has just been accepted. -/
theorem value {t : Token Kind} (hlast : s.1.cursor.last = some t) :
    Tours c s ((value t).exec s) := by
  unfold Calculator.value
  split
  · exact .ok s _
  · exact .diagnostic (.number hlast (.inl rfl))

/-- A division by zero is blamed on the last token of the divisor. -/
theorem quotient {t : Token Kind} (hlast : s.1.cursor.last = some t) (a b : Int) :
    Tours c s ((quotient a b).exec s) := by
  unfold Calculator.quotient
  split
  · exact .diagnostic (.number hlast (.inr rfl))
  · exact .within (by decide) _ s

/-- The name that was accepted last is replaced or blamed, unless its tokens cannot be made. -/
theorem expand {t : Token Kind} (hlast : s.1.cursor.last = some t) (hkind : t.kind = .ident) :
    Tours c s ((c.expand t).exec s) := by
  unfold Calculator.expand
  split
  · rename_i hnone
    exact .diagnostic (.name hlast hkind hnone)
  · rename_i expansion hexpansion
    split
    · rename_i f hf
      refine .unmade hlast ?_
      by_contra hle
      rw [mapM_make_of_le (Nat.le_of_not_lt hle)] at hf
      cases hf
    · rename_i us hus
      have hreplacement : c.replacement? t = some us := by
        rw [replacement?, hexpansion, eq_map_of_mapM_make hus]
        rfl
      exact (ok _ ()).after (.replace hlast hkind hreplacement _)

/-- Behind a sum in parentheses. -/
theorem close (hs : s.1.cursor.Primed) (v : Int) : Tours c s ((close v).exec s) := by
  by_cases hright : aheadOf? s.1.cursor.stream = some .rightParen
  · obtain ⟨t, rest, hat, ht⟩ := Parser.At.of_aheadOf? hs hright
    rw [Calculator.close, exec_bind, exec_expect_of_at hat ht]
    exact (ok _ v).after (.take hat)
  · rw [Calculator.close, exec_bind, exec_expect_of_ne ⟨hs, rfl⟩ hright]
    exact .diagnostic (.mismatch _)

end Tours

/-! ## The grammar -/

/-- With an amount of steps, all functions of the grammar make tours. -/
structure TouringWithin (c : Calculator) (n : Nat) : Prop where
  sum {s : Parser Kind × Nat} (hs : s.1.cursor.Primed) : Tours c s ((c.sum n).exec s)
  sumFrom {s : Parser Kind × Nat} (hs : s.1.cursor.Primed) (v : Int) :
    Tours c s ((c.sumFrom n v).exec s)
  product {s : Parser Kind × Nat} (hs : s.1.cursor.Primed) : Tours c s ((c.product n).exec s)
  productFrom {s : Parser Kind × Nat} (hs : s.1.cursor.Primed) (v : Int) :
    Tours c s ((c.productFrom n v).exec s)
  factor {s : Parser Kind × Nat} (hs : s.1.cursor.Primed) : Tours c s ((c.factor n).exec s)

namespace TouringWithin

variable {n : Nat}

/-- A sum is a product first, and the cursor walks on from there. -/
theorem sum_succ (h : TouringWithin c n) (hs : s.1.cursor.Primed) :
    Tours c s ((c.sum (n + 1)).exec s) := by
  rw [exec_sum]
  exact (h.product hs).bind fun v s' hs' => h.sumFrom (hs'.primed hs) v

theorem product_succ (h : TouringWithin c n) (hs : s.1.cursor.Primed) :
    Tours c s ((c.product (n + 1)).exec s) := by
  rw [exec_product]
  exact (h.factor hs).bind fun v s' hs' => h.productFrom (hs'.primed hs) v

/-- Behind an operator there is an operand; the two values make one, and the function goes on. -/
theorem operator {operand : Calculation Int} {combine next : Int → Calculation Int} {t : Token Kind}
    {rest : List (Token Kind)} (hat : s.1.At (t :: rest))
    (hoperand : ∀ {s}, s.1.cursor.Primed → Tours c s (operand.exec s))
    (hcombine : ∀ {s : Parser Kind × Nat} {u} w, s.1.cursor.last = some u →
      Tours c s ((combine w).exec s))
    (hnext : ∀ {s : Parser Kind × Nat} v, s.1.cursor.Primed → Tours c s ((next v).exec s)) :
    Tours c s ((operand >>= fun w => combine w >>= next).exec (s.1.take t, s.2)) := by
  have hprimed := hat.take.primed
  refine Tours.after (Tours.bind (hoperand hprimed) fun w s' hs' => ?_) (.take hat)
  obtain ⟨u, hu⟩ := hs'.exists_last (t := t) rfl
  exact (hcombine w hu).bind fun v s'' hs'' => hnext v ((hs'.trans hs'').primed hprimed)

/-- Behind a value there is one of two operators, or the sum has come to its end. -/
theorem sumFrom_succ (h : TouringWithin c n) (hs : s.1.cursor.Primed) (v : Int) :
    Tours c s ((c.sumFrom (n + 1) v).exec s) := by
  by_cases hplus : aheadOf? s.1.cursor.stream = some .plus
  · obtain ⟨t, rest, hat, ht⟩ := Parser.At.of_aheadOf? hs hplus
    rw [exec_sumFrom_of_plus hat ht]
    exact operator hat h.product (fun _ _ => .within (by decide) _ _) fun v hs => h.sumFrom hs v
  by_cases hminus : aheadOf? s.1.cursor.stream = some .minus
  · obtain ⟨t, rest, hat, ht⟩ := Parser.At.of_aheadOf? hs hminus
    rw [exec_sumFrom_of_minus hat ht]
    exact operator hat h.product (fun _ _ => .within (by decide) _ _) fun v hs => h.sumFrom hs v
  · rw [exec_sumFrom_of_ne ⟨hs, rfl⟩ hplus hminus]
    exact .ok s v

/-- Behind a value there is one of two operators, or the product has come to its end. -/
theorem productFrom_succ (h : TouringWithin c n) (hs : s.1.cursor.Primed) (v : Int) :
    Tours c s ((c.productFrom (n + 1) v).exec s) := by
  by_cases hstar : aheadOf? s.1.cursor.stream = some .star
  · obtain ⟨t, rest, hat, ht⟩ := Parser.At.of_aheadOf? hs hstar
    rw [exec_productFrom_of_star hat ht]
    exact operator hat h.factor (fun _ _ => .within (by decide) _ _) fun v hs => h.productFrom hs v
  by_cases hslash : aheadOf? s.1.cursor.stream = some .slash
  · obtain ⟨t, rest, hat, ht⟩ := Parser.At.of_aheadOf? hs hslash
    rw [exec_productFrom_of_slash hat ht]
    exact operator hat h.factor (fun _ hlast => .quotient hlast _ _) fun v hs => h.productFrom hs v
  · rw [exec_productFrom_of_ne ⟨hs, rfl⟩ hstar hslash]
    exact .ok s v

/-- A factor goes on in one of four ways, each by the token that is ahead, or there is something to
blame. -/
theorem factor_succ (h : TouringWithin c n) (hs : s.1.cursor.Primed) :
    Tours c s ((c.factor (n + 1)).exec s) := by
  by_cases hnumber : aheadOf? s.1.cursor.stream = some .number
  · obtain ⟨t, rest, hat, ht⟩ := Parser.At.of_aheadOf? hs hnumber
    rw [exec_factor_of_number hat ht]
    exact Tours.after (.value rfl) (.take hat)
  by_cases hminus : aheadOf? s.1.cursor.stream = some .minus
  · obtain ⟨t, rest, hat, ht⟩ := Parser.At.of_aheadOf? hs hminus
    rw [exec_factor_of_minus hat ht]
    refine Tours.after (Tours.bind (h.factor hat.take.primed) fun v s' _ => ?_) (.take hat)
    exact .within (by decide) _ s'
  by_cases hparen : aheadOf? s.1.cursor.stream = some .leftParen
  · obtain ⟨t, rest, hat, ht⟩ := Parser.At.of_aheadOf? hs hparen
    rw [exec_factor_of_leftParen hat ht]
    refine Tours.after (Tours.bind (h.sum hat.take.primed) fun v s' hs' => ?_) (.take hat)
    exact .close (hs'.primed hat.take.primed) v
  by_cases hident : aheadOf? s.1.cursor.stream = some .ident
  · obtain ⟨t, rest, hat, ht⟩ := Parser.At.of_aheadOf? hs hident
    rw [exec_factor_of_ident hat ht]
    refine Tours.after (Tours.bind (.expand rfl ht) fun _ s' hs' => ?_) (.take hat)
    exact h.factor (hs'.primed hat.take.primed)
  · rw [exec_factor_of_ne ⟨hs, rfl⟩ hnumber hminus hparen hident]
    exact .diagnostic (.mismatch _)

end TouringWithin

/-- Whatever the amount of steps is, the functions of the grammar tour. -/
theorem touringWithin (c : Calculator) (n : Nat) : TouringWithin c n := by
  induction n with
  | zero =>
    constructor <;> intros <;> exact .endless _
  | succ n ih =>
    exact ⟨ih.sum_succ, ih.sumFrom_succ, ih.product_succ, ih.productFrom_succ, ih.factor_succ⟩

theorem tours_wholeWithin (c : Calculator) (n : Nat) (hs : s.1.cursor.Primed) :
    Tours c s ((c.wholeWithin n).exec s) := by
  refine ((touringWithin c n).sum hs).bind fun v s' _ => ?_
  rw [exec_bind, exec_cursor, andThen_ok, exec_ite]
  split
  · exact .ok s' v
  · exact .diagnostic (.next (.inl rfl))

/-- **A calculation walks along the events** that it adds to the trace. -/
theorem tours_whole (c : Calculator) (hs : s.1.cursor.Primed) : Tours c s (c.whole.exec s) := by
  rw [exec_whole]
  exact tours_wholeWithin c _ hs

end Descent.Calculator
