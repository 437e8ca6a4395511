import Descent.Proofs.Calculator.Lookahead

/-!
# What the calculator reads is a calculation

On its way the calculator accepts tokens and puts other tokens in the place of names. What it has
read (`Calculator.Reads`) are the tokens that it accepted and that were not names. If a function of
the grammar has a value, then what it has read is a phrase of its kind with that value
(`Calculator.sound`), whatever the aliases are.

The proof is by induction on the amount of steps, with one lemma for each function of the grammar
(`Sound.sum_succ` and its like). A function that goes on from a value cannot say what it has read;
it says what becomes of a phrase with that value if the tokens are put behind it
(`Calculator.Extends`).
-/

namespace Descent.Calculator

open Grammar

variable {c : Calculator}

/-! ## Reading -/

/-- From a place to another, with the number of names that have been replaced, the calculator reads
some tokens. -/
inductive Reads (c : Calculator) :
    Reading Kind × Nat → List (Token Kind) → Reading Kind × Nat → Prop where
  /-- nothing is read -/
  | stay (x : Reading Kind × Nat) : Reads c x [] x
  /-- a token is accepted -/
  | take {text : String} {last : Option (Token Kind)} {t : Token Kind}
      {rest ts : List (Token Kind)} {m : Nat} {y : Reading Kind × Nat} (ht : t.kind ≠ .ident)
      (h : Reads c (⟨text, some t, rest⟩, m) ts y) :
      Reads c (⟨text, last, t :: rest⟩, m) (t :: ts) y
  /-- other tokens take the place of a name -/
  | replace {text : String} {last : Option (Token Kind)} {t : Token Kind}
      {rest us ts : List (Token Kind)} {m : Nat} {y : Reading Kind × Nat} (ht : t.kind = .ident)
      (hus : c.replacement? t = some us) (h : Reads c (⟨text, some t, us ++ rest⟩, m + 1) ts y) :
      Reads c (⟨text, last, t :: rest⟩, m) ts y

/-- What is read first and what is read after it is read together. -/
theorem Reads.trans {x y z : Reading Kind × Nat} {ts us : List (Token Kind)} (h : Reads c x ts y)
    (h' : Reads c y us z) : Reads c x (ts ++ us) z := by
  induction h with
  | stay => exact h'
  | take ht _ ih => exact .take ht (ih h')
  | replace ht hus _ ih => exact .replace ht hus (ih h')

/-- Without aliases the tokens are read as they are, up to the last of them. -/
theorem Reads.eq_of_empty {x y : Reading Kind × Nat} {ts : List (Token Kind)}
    (h : Reads empty x ts y) :
    x.1.stream = ts ++ y.1.stream ∧ y.1.text = x.1.text ∧ y.1.last = ts.getLast?.or x.1.last ∧
      y.2 = x.2 := by
  induction h with
  | stay => exact ⟨rfl, rfl, rfl, rfl⟩
  | take ht _ ih =>
    obtain ⟨hstream, htext, hlast, hcount⟩ := ih
    refine ⟨by rw [List.cons_append, ← hstream], htext, ?_, hcount⟩
    rw [hlast, List.getLast?_cons]
    cases List.getLast? _ <;> rfl
  | replace ht hus _ _ => cases hus

/-- From a state the calculator has come to another, and has read some tokens. -/
structure Reaches (c : Calculator) (s : Parser Kind × Nat) (ts : List (Token Kind))
    (s' : Parser Kind × Nat) : Prop where
  reads : Reads c (s.1.cursor.reading, s.2) ts (s'.1.cursor.reading, s'.2)
  primed : s'.1.cursor.Primed
  lexer : s'.1.lexer = s.1.lexer

namespace Reaches

variable {s s₁ s' : Parser Kind × Nat} {t : Token Kind} {rest ts us : List (Token Kind)}

theorem refl (h : s.1.cursor.Primed) : Reaches c s [] s := ⟨.stay _, h, rfl⟩

theorem trans (h : Reaches c s ts s₁) (h' : Reaches c s₁ us s') : Reaches c s (ts ++ us) s' :=
  ⟨h.reads.trans h'.reads, h'.primed, h'.lexer.trans h.lexer⟩

/-- A token that is accepted is the first of those that are read. -/
theorem take (hat : s.1.At (t :: rest)) (ht : t.kind ≠ .ident)
    (h : Reaches c (s.1.take t, s.2) ts s') : Reaches c s (t :: ts) s' := by
  refine ⟨?_, h.primed, h.lexer⟩
  have hreads := h.reads
  rw [hat.reading_take] at hreads
  rw [hat.reading_eq]
  exact .take ht hreads

/-- A name that is replaced is not among the tokens that are read. -/
theorem replace (hat : s.1.At (t :: rest)) (ht : t.kind = .ident)
    (hus : c.replacement? t = some us) (h : Reaches c ((s.1.take t).push us, s.2 + 1) ts s') :
    Reaches c s ts s' := by
  refine ⟨?_, h.primed, h.lexer⟩
  have hreads := h.reads
  rw [Parser.cursor_push, Cursor.reading_push, hat.reading_take] at hreads
  rw [hat.reading_eq]
  exact .replace ht hus hreads

end Reaches

/-! ## Yielding phrases -/

/-- What was read is a phrase with the value. -/
def Yields (c : Calculator) (φ : Phrase) (v : Int) (s s' : Parser Kind × Nat) : Prop :=
  ∃ ts, Reaches c s ts s' ∧ Evaluates φ ts v

/-- Behind a phrase with the first value, what was read makes a phrase with the second value. -/
def Extends (c : Calculator) (φ : Phrase) (u v : Int) (s s' : Parser Kind × Nat) : Prop :=
  ∃ ts, Reaches c s ts s' ∧ ∀ us, Evaluates φ us u → Evaluates φ (us ++ ts) v

theorem Extends.refl {φ : Phrase} {s : Parser Kind × Nat} (h : s.1.cursor.Primed) (v : Int) :
    Extends c φ v v s s :=
  ⟨[], .refl h, fun us hus => by rwa [List.append_nil]⟩

/-- A phrase that is extended is a phrase. -/
theorem Yields.extend {φ : Phrase} {u v : Int} {s s₁ s' : Parser Kind × Nat}
    (h : Yields c φ u s s₁) (h' : Extends c φ u v s₁ s') : Yields c φ v s s' := by
  obtain ⟨ts, hts, hu⟩ := h
  obtain ⟨us, hus, hextend⟩ := h'
  exact ⟨ts ++ us, hts.trans hus, hextend ts hu⟩

/-- An operator and its right operand extend a phrase, if the grammar has a rule for them. -/
theorem Extends.operator {φ ψ : Phrase} {u v : Int} {s s' : Parser Kind × Nat} {t : Token Kind}
    {rest : List (Token Kind)} {operand : Calculation Int} {combine next : Int → Calculation Int}
    {f : Int → Option Int} (hat : s.1.At (t :: rest)) (ht : t.kind ≠ .ident)
    (hoperand : ∀ {s s' w}, s.1.cursor.Primed → operand.yield? s = some (w, s') → Yields c ψ w s s')
    (hcombine : ∀ w s, (combine w).yield? s = (f w).bind fun x => some (x, s))
    (hnext : ∀ {s s' x v}, s.1.cursor.Primed → (next x).yield? s = some (v, s') →
      Extends c φ x v s s')
    (hrule : ∀ us ws w x, Evaluates φ us u → Evaluates ψ ws w → f w = some x →
      Evaluates φ (us ++ t :: ws) x)
    (h : (operand >>= fun w => combine w >>= next).yield? (s.1.take t, s.2) = some (v, s')) :
    Extends c φ u v s s' := by
  simp only [yield?_bind, hcombine, Option.bind_eq_some_iff] at h
  obtain ⟨⟨w, s₁⟩, hw, ⟨x, s₂⟩, ⟨x', hx, heq⟩, hrest⟩ := h
  obtain ⟨rfl, rfl⟩ := Prod.mk.inj (Option.some.inj heq)
  obtain ⟨ws, hws, hphrase⟩ := hoperand hat.take.primed hw
  obtain ⟨ts, hts, hextend⟩ := hnext hws.primed hrest
  refine ⟨t :: (ws ++ ts), .take hat ht (hws.trans hts), ?_⟩
  intro us hus
  -- the rest is behind a longer phrase, which ends with the operand
  have hlonger := hextend _ (hrule us ws w x' hus hphrase hx)
  rwa [List.append_assoc, List.cons_append] at hlonger

/-- A sum in parentheses is a factor. -/
theorem Yields.group {v w : Int} {s s₁ s' : Parser Kind × Nat} {t : Token Kind}
    {rest : List (Token Kind)} (hat : s.1.At (t :: rest)) (ht : t.kind = .leftParen)
    (hsum : Yields c .sum w (s.1.take t, s.2) s₁) (h : (close w).yield? s₁ = some (v, s')) :
    Yields c .factor v s s' := by
  obtain ⟨ts, hts, hphrase⟩ := hsum
  by_cases hright : aheadOf? s₁.1.cursor.stream = some .rightParen
  · obtain ⟨u, rest', hat', hu⟩ := Parser.At.of_aheadOf? hts.primed hright
    rw [yield?_close_of_at hat' hu] at h
    obtain ⟨rfl, rfl⟩ := Prod.mk.inj (Option.some.inj h)
    have hlast : Reaches c s₁ [u] (s₁.1.take u, s₁.2) :=
      .take hat' (by rw [hu]; decide) (.refl hat'.take.primed)
    exact ⟨t :: (ts ++ [u]), .take hat (by rw [ht]; decide) (hts.trans hlast),
      .group ht hphrase hu⟩
  · rw [yield?_close_of_ne ⟨hts.primed, rfl⟩ hright] at h
    cases h

/-! ## Every value is right -/

/-- With an amount of steps, all values are values of what was read. -/
structure Sound (c : Calculator) (n : Nat) : Prop where
  sum {s s' : Parser Kind × Nat} {v : Int} (hs : s.1.cursor.Primed)
    (h : (c.sum n).yield? s = some (v, s')) : Yields c .sum v s s'
  sumFrom {s s' : Parser Kind × Nat} {u v : Int} (hs : s.1.cursor.Primed)
    (h : (c.sumFrom n u).yield? s = some (v, s')) : Extends c .sum u v s s'
  product {s s' : Parser Kind × Nat} {v : Int} (hs : s.1.cursor.Primed)
    (h : (c.product n).yield? s = some (v, s')) : Yields c .product v s s'
  productFrom {s s' : Parser Kind × Nat} {u v : Int} (hs : s.1.cursor.Primed)
    (h : (c.productFrom n u).yield? s = some (v, s')) : Extends c .product u v s s'
  factor {s s' : Parser Kind × Nat} {v : Int} (hs : s.1.cursor.Primed)
    (h : (c.factor n).yield? s = some (v, s')) : Yields c .factor v s s'

namespace Sound

variable {n : Nat} {s s' : Parser Kind × Nat} {u v : Int}

/-- With one more step a sum is right: it is a product and what extends it. -/
theorem sum_succ (h : Sound c n) (hs : s.1.cursor.Primed)
    (hrun : (c.sum (n + 1)).yield? s = some (v, s')) : Yields c .sum v s s' := by
  rw [yield?_congr exec_sum, yield?_bind, Option.bind_eq_some_iff] at hrun
  obtain ⟨⟨u, s₁⟩, hproduct, hrest⟩ := hrun
  obtain ⟨ts, hts, hphrase⟩ := h.product hs hproduct
  exact Yields.extend ⟨ts, hts, hphrase.ofProduct⟩ (h.sumFrom hts.primed hrest)

/-- With one more step the rest of a sum is right: the operators are those of the grammar. -/
theorem sumFrom_succ (h : Sound c n) (hs : s.1.cursor.Primed)
    (hrun : (c.sumFrom (n + 1) u).yield? s = some (v, s')) : Extends c .sum u v s s' := by
  by_cases hplus : aheadOf? s.1.cursor.stream = some .plus
  · obtain ⟨t, rest, hat, ht⟩ := Parser.At.of_aheadOf? hs hplus
    rw [yield?_congr (exec_sumFrom_of_plus hat ht)] at hrun
    exact .operator hat (by rw [ht]; decide) h.product (fun _ _ => yield?_within _ _) h.sumFrom
      (fun _ _ _ _ hus hws hx => .add hus ht hws hx) hrun
  by_cases hminus : aheadOf? s.1.cursor.stream = some .minus
  · obtain ⟨t, rest, hat, ht⟩ := Parser.At.of_aheadOf? hs hminus
    rw [yield?_congr (exec_sumFrom_of_minus hat ht)] at hrun
    exact .operator hat (by rw [ht]; decide) h.product (fun _ _ => yield?_within _ _) h.sumFrom
      (fun _ _ _ _ hus hws hx => .sub hus ht hws hx) hrun
  · rw [yield?_eq_some_iff, exec_sumFrom_of_ne ⟨hs, rfl⟩ hplus hminus] at hrun
    obtain ⟨hv, rfl⟩ := Prod.mk.inj hrun
    obtain rfl := Except.ok.inj hv
    exact .refl hs _

/-- With one more step a product is right: it is a factor and what extends it. -/
theorem product_succ (h : Sound c n) (hs : s.1.cursor.Primed)
    (hrun : (c.product (n + 1)).yield? s = some (v, s')) : Yields c .product v s s' := by
  rw [yield?_congr exec_product, yield?_bind, Option.bind_eq_some_iff] at hrun
  obtain ⟨⟨u, s₁⟩, hfactor, hrest⟩ := hrun
  obtain ⟨ts, hts, hphrase⟩ := h.factor hs hfactor
  exact Yields.extend ⟨ts, hts, hphrase.ofFactor⟩ (h.productFrom hts.primed hrest)

/-- With one more step the rest of a product is right, in the same way as that of a sum. -/
theorem productFrom_succ (h : Sound c n) (hs : s.1.cursor.Primed)
    (hrun : (c.productFrom (n + 1) u).yield? s = some (v, s')) : Extends c .product u v s s' := by
  by_cases hstar : aheadOf? s.1.cursor.stream = some .star
  · obtain ⟨t, rest, hat, ht⟩ := Parser.At.of_aheadOf? hs hstar
    rw [yield?_congr (exec_productFrom_of_star hat ht)] at hrun
    exact .operator hat (by rw [ht]; decide) h.factor (fun _ _ => yield?_within _ _) h.productFrom
      (fun _ _ _ _ hus hws hx => .mul hus ht hws hx) hrun
  by_cases hslash : aheadOf? s.1.cursor.stream = some .slash
  · obtain ⟨t, rest, hat, ht⟩ := Parser.At.of_aheadOf? hs hslash
    rw [yield?_congr (exec_productFrom_of_slash hat ht)] at hrun
    exact .operator hat (by rw [ht]; decide) h.factor (fun _ _ => yield?_quotient _ _) h.productFrom
      (fun _ _ _ _ hus hws hx => .div hus ht hws hx) hrun
  · rw [yield?_eq_some_iff, exec_productFrom_of_ne ⟨hs, rfl⟩ hstar hslash] at hrun
    obtain ⟨hv, rfl⟩ := Prod.mk.inj hrun
    obtain rfl := Except.ok.inj hv
    exact .refl hs _

/-- With one more step a factor is right, be it a name, which is read as what it stands for. -/
theorem factor_succ (h : Sound c n) (hs : s.1.cursor.Primed)
    (hrun : (c.factor (n + 1)).yield? s = some (v, s')) : Yields c .factor v s s' := by
  by_cases hnumber : aheadOf? s.1.cursor.stream = some .number
  · obtain ⟨t, rest, hat, ht⟩ := Parser.At.of_aheadOf? hs hnumber
    rw [yield?_congr (exec_factor_of_number hat ht), yield?_value, Option.bind_eq_some_iff] at hrun
    obtain ⟨w, hw, heq⟩ := hrun
    obtain ⟨rfl, rfl⟩ := Prod.mk.inj (Option.some.inj heq)
    exact ⟨[t], .take hat (by rw [ht]; decide) (.refl hat.take.primed), .number ht hw⟩
  by_cases hminus : aheadOf? s.1.cursor.stream = some .minus
  · obtain ⟨t, rest, hat, ht⟩ := Parser.At.of_aheadOf? hs hminus
    rw [yield?_congr (exec_factor_of_minus hat ht)] at hrun
    simp only [yield?_bind, yield?_within, Option.bind_eq_some_iff] at hrun
    obtain ⟨⟨w, s₁⟩, hfactor, x, hx, heq⟩ := hrun
    obtain ⟨rfl, rfl⟩ := Prod.mk.inj (Option.some.inj heq)
    obtain ⟨ts, hts, hphrase⟩ := h.factor hat.take.primed hfactor
    exact ⟨t :: ts, .take hat (by rw [ht]; decide) hts, .neg ht hphrase hx⟩
  by_cases hparen : aheadOf? s.1.cursor.stream = some .leftParen
  · obtain ⟨t, rest, hat, ht⟩ := Parser.At.of_aheadOf? hs hparen
    rw [yield?_congr (exec_factor_of_leftParen hat ht), yield?_bind,
      Option.bind_eq_some_iff] at hrun
    obtain ⟨⟨w, s₁⟩, hsum, hclose⟩ := hrun
    exact .group hat ht (h.sum hat.take.primed hsum) hclose
  by_cases hident : aheadOf? s.1.cursor.stream = some .ident
  · obtain ⟨t, rest, hat, ht⟩ := Parser.At.of_aheadOf? hs hident
    rw [yield?_congr (exec_factor_of_ident hat ht), yield?_bind, Option.bind_eq_some_iff] at hrun
    obtain ⟨⟨⟨⟩, s₁⟩, hexpand, hfactor⟩ := hrun
    -- the name is not read; what took its place is
    obtain ⟨us, hus, rfl⟩ := replacement?_of_yield?_expand hexpand
    obtain ⟨ts, hts, hphrase⟩ := h.factor (hat.take.push us).primed hfactor
    exact ⟨ts, .replace hat ht hus hts, hphrase⟩
  · rw [yield?_eq_some_iff, exec_factor_of_ne ⟨hs, rfl⟩ hnumber hminus hparen hident] at hrun
    cases hrun

end Sound

/-- **Every value is right**: if a function of the grammar has a value, then what was read is a
phrase with that value. -/
theorem sound (c : Calculator) (n : Nat) : Sound c n := by
  induction n with
  | zero =>
    -- without steps there are no values
    constructor <;> exact fun _ h => by cases h
  | succ n ih =>
    exact ⟨ih.sum_succ, ih.sumFrom_succ, ih.product_succ, ih.productFrom_succ, ih.factor_succ⟩

/-- If a text has a value, then what was read up to its end is a sum with that value. -/
theorem reaches_of_whole {s s' : Parser Kind × Nat} {v : Int} (hs : s.1.cursor.Primed)
    (h : c.whole.exec s = (.ok v, s')) :
    s'.1.At [] ∧ ∃ ts, Reaches c s ts s' ∧ Evaluates .sum ts v := by
  obtain ⟨hsum, hexhausted⟩ := yield?_whole_eq_some_iff.1 (yield?_eq_some_iff.2 h)
  obtain ⟨ts, hts, hphrase⟩ := (sound c _).sum hs hsum
  have hat : s'.1.At s'.1.cursor.stream := ⟨hts.primed, rfl⟩
  exact ⟨⟨hts.primed, hat.isExhausted_iff.1 hexhausted⟩, ts, hts, hphrase⟩

end Descent.Calculator
