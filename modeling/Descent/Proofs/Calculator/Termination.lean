import Descent.Proofs.Calculator.Size
import Descent.Proofs.Calculator.Soundness
import Descent.Proofs.Calculator.Steps

/-!
# Calculations come to an end

If no alias leads back to itself, then the budget is enough. A name makes the stream longer than it
was, but what is left to do (`Calculator.load`) becomes less with every token that is accepted and
with every name that is replaced. So the steps can be measured against it
(`Calculator.spendingWithin`).

The same induction counts the names. Those that have been replaced and those that are still to be
replaced for the tokens that are left are together as many as before, unless a token cannot be made.
If a text has a value then no tokens are left, and the count has grown by the total of the tokens
that were there (`Calculator.counts_expansions`).
-/

namespace Descent.Calculator

open Grammar

variable {c : Calculator} {α β : Type}

/-! ## Enough steps -/

variable {s s' : Parser Kind × Nat} {b b' : Nat}

/-- The names that have been replaced, and those that are to be replaced for the tokens that are
left. -/
def tally (c : Calculator) (s : Parser Kind × Nat) : Nat := s.2 + c.total s.1.cursor.stream

/-- What is left to do in front of the tokens that are left. -/
def due (c : Calculator) (s : Parser Kind × Nat) : Nat := c.load s.1.cursor.stream

/-- How a function of the grammar may end: there is an end, the tally has not grown, and if there is
a value then less than `b` is left to do. -/
structure Spends (c : Calculator) (b : Nat) (s : Parser Kind × Nat)
    (r : Except Failure α × (Parser Kind × Nat)) : Prop where
  ends : r.1 ≠ .error .endless
  tally_le : c.tally r.2 ≤ c.tally s
  value : ∀ a, r.1 = .ok a → r.2.1.cursor.Primed ∧ c.due r.2 < b

namespace Spends

/-- A value that is there already leaves everything as it was. -/
theorem ok {a : α} (hs : s.1.cursor.Primed) (hb : c.due s < b) :
    Spends c b s (.ok a, s) :=
  ⟨nofun, Nat.le_refl _, fun _ _ => ⟨hs, hb⟩⟩

/-- A failure other than running out of steps is an end. -/
theorem error {e : Failure} (he : e ≠ .endless) :
    Spends c b s ((.error e : Except Failure α), s) :=
  ⟨fun h => he (Except.error.inj h), Nat.le_refl _, nofun⟩

/-- A syntax error is an end. -/
theorem diagnostic (d : Diagnostic) :
    Spends c b s ((.error (.diagnostic d) : Except Failure α), s) :=
  error nofun

/-- What is less than `b` is less than every larger bound. -/
theorem mono {r : Except Failure α × (Parser Kind × Nat)} (h : Spends c b s r) (hb : b ≤ b') :
    Spends c b' s r :=
  ⟨h.ends, h.tally_le, fun a ha => ⟨(h.value a ha).1, (h.value a ha).2.trans_le hb⟩⟩

/-- What was done before has not made the tally grow either. -/
theorem after {r : Except Failure α × (Parser Kind × Nat)} (h : Spends c b s' r)
    (hs : c.tally s' ≤ c.tally s) : Spends c b s r :=
  ⟨h.ends, h.tally_le.trans hs, h.value⟩

/-- If the first function ends with a value, the second goes on with what is left to do. -/
theorem bind {g : Calculation α} {f : α → Calculation β} (hg : Spends c b s (g.exec s))
    (hf : ∀ a s', s'.1.cursor.Primed → c.due s' < b →
      Spends c b' s' ((f a).exec s')) : Spends c b' s ((g >>= f).exec s) := by
  rw [exec_bind]
  generalize g.exec s = r at hg
  obtain ⟨e | a, s'⟩ := r
  · exact ⟨fun h => hg.ends (congrArg Except.error (Except.error.inj h)), hg.tally_le, nofun⟩
  · obtain ⟨hprimed, hload⟩ := hg.value a rfl
    exact (hf a s' hprimed hload).after hg.tally_le

end Spends

section Take

variable {t : Token Kind} {rest : List (Token Kind)}

/-- A token that is accepted was perhaps a name, which is then no longer there to be replaced. -/
theorem tally_take_le (hat : s.1.At (t :: rest)) : c.tally (s.1.take t, s.2) ≤ c.tally s := by
  rw [tally, tally, hat.take.stream_eq, hat.stream_eq]
  exact Nat.add_le_add_left (c.total_le_cons t rest) _

/-- With every token that is accepted there is less left to do. -/
theorem due_take_lt (hat : s.1.At (t :: rest)) :
    c.due (s.1.take t, s.2) < c.due s := by
  rw [due, due, hat.take.stream_eq, hat.stream_eq]
  exact c.load_lt_cons t rest

/-- A name that is replaced is one more that has been, and one less that is to be. -/
theorem Acyclic.tally_replace (hc : c.Acyclic) (hat : s.1.At (t :: rest)) (ht : t.kind = .ident)
    {us : List (Token Kind)} (hus : c.replacement? t = some us) :
    c.tally ((s.1.take t).push us, s.2 + 1) = c.tally s := by
  rw [tally, tally, (hat.take.push us).stream_eq, hat.stream_eq, total_append,
    total_cons_of_ident ht, hc.size_of_replacement? hus]
  omega

/-- With every name that is replaced there is less left to do, however many tokens it stands for. -/
theorem Acyclic.due_replace_lt (hc : c.Acyclic) (hat : s.1.At (t :: rest)) (ht : t.kind = .ident)
    {us : List (Token Kind)} (hus : c.replacement? t = some us) :
    c.due ((s.1.take t).push us, s.2 + 1) < c.due s := by
  rw [due, due, (hat.take.push us).stream_eq, hat.stream_eq]
  exact hc.load_replacement?_lt ht hus rest

end Take

/-- A name is replaced, or there is a failure. -/
theorem exec_expand_cases (c : Calculator) (t : Token Kind) (s : Parser Kind × Nat) :
    (∃ e : Failure, e ≠ .endless ∧ (c.expand t).exec s = (.error e, s)) ∨
      ∃ us, c.replacement? t = some us ∧
        (c.expand t).exec s = (.ok (), (s.1.push us, s.2 + 1)) := by
  unfold expand
  split
  · exact .inl ⟨.diagnostic (s.1.cursor.lastError ("Unknown name " ++ t.display)), nofun, rfl⟩
  · rename_i expansion hexpansion
    split
    · exact .inl ⟨.fault _, nofun, rfl⟩
    · rename_i us hus
      refine .inr ⟨us, ?_, rfl⟩
      rw [replacement?, hexpansion, eq_map_of_mapM_make hus]
      rfl

/-! ## Values -/

/-- A value that is in range leaves everything as it was, and one that is not ends the run. -/
theorem spends_within {f : Fault} (n : Int) (hs : s.1.cursor.Primed)
    (hb : c.due s < b) : Spends c b s ((within f n).exec s) := by
  unfold within
  split
  · exact .ok hs hb
  · exact .error nofun

/-- Dividing leaves everything as it was, or ends the run. -/
theorem spends_quotient (u v : Int) (hs : s.1.cursor.Primed)
    (hb : c.due s < b) : Spends c b s ((quotient u v).exec s) := by
  unfold quotient
  split
  · exact .error nofun
  · exact spends_within _ hs hb

/-- Reading the digits leaves everything as it was, or ends the run. -/
theorem spends_value (t : Token Kind) (hs : s.1.cursor.Primed)
    (hb : c.due s < b) : Spends c b s ((value t).exec s) := by
  unfold value
  split
  · exact .ok hs hb
  · exact .error nofun

/-- Behind a sum in parentheses. -/
theorem spends_close (v : Int) (hs : s.1.cursor.Primed) (hb : c.due s < b) :
    Spends c b s ((close v).exec s) := by
  by_cases hright : aheadOf? s.1.cursor.stream = some .rightParen
  · obtain ⟨t, rest, hat, ht⟩ := Parser.At.of_aheadOf? hs hright
    rw [close, exec_bind, exec_expect_of_at hat ht]
    exact Spends.after (.ok hat.take.primed ((due_take_lt hat).trans hb)) (tally_take_le hat)
  · rw [close, exec_bind, exec_expect_of_ne ⟨hs, rfl⟩ hright]
    exact .diagnostic _

/-! ## The grammar -/

/-- With an amount of steps that is enough for what is left to do, the functions of the grammar have
an end. -/
structure SpendingWithin (c : Calculator) (n : Nat) : Prop where
  sum {s : Parser Kind × Nat} (hs : s.1.cursor.Primed)
    (hn : 3 * c.due s + 3 ≤ n) :
    Spends c (c.due s) s ((c.sum n).exec s)
  sumFrom {s : Parser Kind × Nat} (v : Int) (hs : s.1.cursor.Primed)
    (hn : 3 * c.due s + 1 ≤ n) :
    Spends c (c.due s + 1) s ((c.sumFrom n v).exec s)
  product {s : Parser Kind × Nat} (hs : s.1.cursor.Primed)
    (hn : 3 * c.due s + 2 ≤ n) :
    Spends c (c.due s) s ((c.product n).exec s)
  productFrom {s : Parser Kind × Nat} (v : Int) (hs : s.1.cursor.Primed)
    (hn : 3 * c.due s + 1 ≤ n) :
    Spends c (c.due s + 1) s ((c.productFrom n v).exec s)
  factor {s : Parser Kind × Nat} (hs : s.1.cursor.Primed)
    (hn : 3 * c.due s + 1 ≤ n) :
    Spends c (c.due s) s ((c.factor n).exec s)

namespace SpendingWithin

variable {n : Nat}

/-- With one more step a sum ends: the product takes what is due, and the rest has less to do. -/
theorem sum_succ (h : SpendingWithin c n) (hs : s.1.cursor.Primed)
    (hn : 3 * c.due s + 3 ≤ n + 1) :
    Spends c (c.due s) s ((c.sum (n + 1)).exec s) := by
  rw [exec_sum]
  refine (h.product hs (by omega)).bind fun v s' hs' hload => ?_
  exact (h.sumFrom v hs' (by omega)).mono hload

/-- With one more step a product ends, in the same way. -/
theorem product_succ (h : SpendingWithin c n) (hs : s.1.cursor.Primed)
    (hn : 3 * c.due s + 2 ≤ n + 1) :
    Spends c (c.due s) s ((c.product (n + 1)).exec s) := by
  rw [exec_product]
  refine (h.factor hs (by omega)).bind fun v s' hs' hload => ?_
  exact (h.productFrom v hs' (by omega)).mono hload

/-- Behind an operator there is an operand; the two values make one, and the function goes on. -/
theorem operator {operand : Calculation Int} {combine next : Int → Calculation Int}
    {t : Token Kind} {rest : List (Token Kind)} (hat : s.1.At (t :: rest))
    (hoperand : ∀ {s'}, s'.1.cursor.Primed →
      c.due s' < c.due s →
      Spends c (c.due s') s' (operand.exec s'))
    (hcombine : ∀ {s' b} w, s'.1.cursor.Primed → c.due s' < b →
      Spends c b s' ((combine w).exec s'))
    (hnext : ∀ {s'} v, s'.1.cursor.Primed →
      c.due s' < c.due s →
      Spends c (c.due s' + 1) s' ((next v).exec s')) :
    Spends c (c.due s + 1) s
      ((operand >>= fun w => combine w >>= next).exec (s.1.take t, s.2)) := by
  have hlt := due_take_lt (c := c) hat
  refine Spends.after (Spends.bind (hoperand hat.take.primed hlt) fun w s₁ hs₁ hload₁ => ?_)
    (tally_take_le hat)
  refine Spends.bind (hcombine w hs₁ hload₁) fun v s₂ hs₂ hload₂ => ?_
  have hlt₂ := hload₂.trans hlt
  exact (hnext v hs₂ hlt₂).mono (Nat.succ_le_succ hlt₂.le)

/-- With one more step the rest of a sum ends: each operator is a token less. -/
theorem sumFrom_succ (h : SpendingWithin c n) (v : Int) (hs : s.1.cursor.Primed)
    (hn : 3 * c.due s + 1 ≤ n + 1) :
    Spends c (c.due s + 1) s ((c.sumFrom (n + 1) v).exec s) := by
  by_cases hplus : aheadOf? s.1.cursor.stream = some .plus
  · obtain ⟨t, rest, hat, ht⟩ := Parser.At.of_aheadOf? hs hplus
    rw [exec_sumFrom_of_plus hat ht]
    exact operator hat (fun hs' hlt => h.product hs' (by omega)) (fun _ => spends_within _)
      fun v hs' hlt => h.sumFrom v hs' (by omega)
  by_cases hminus : aheadOf? s.1.cursor.stream = some .minus
  · obtain ⟨t, rest, hat, ht⟩ := Parser.At.of_aheadOf? hs hminus
    rw [exec_sumFrom_of_minus hat ht]
    exact operator hat (fun hs' hlt => h.product hs' (by omega)) (fun _ => spends_within _)
      fun v hs' hlt => h.sumFrom v hs' (by omega)
  · rw [exec_sumFrom_of_ne ⟨hs, rfl⟩ hplus hminus]
    exact .ok hs (Nat.lt_succ_self _)

/-- With one more step the rest of a product ends, in the same way. -/
theorem productFrom_succ (h : SpendingWithin c n) (v : Int) (hs : s.1.cursor.Primed)
    (hn : 3 * c.due s + 1 ≤ n + 1) :
    Spends c (c.due s + 1) s ((c.productFrom (n + 1) v).exec s) := by
  by_cases hstar : aheadOf? s.1.cursor.stream = some .star
  · obtain ⟨t, rest, hat, ht⟩ := Parser.At.of_aheadOf? hs hstar
    rw [exec_productFrom_of_star hat ht]
    exact operator hat (fun hs' hlt => h.factor hs' (by omega)) (fun _ => spends_within _)
      fun v hs' hlt => h.productFrom v hs' (by omega)
  by_cases hslash : aheadOf? s.1.cursor.stream = some .slash
  · obtain ⟨t, rest, hat, ht⟩ := Parser.At.of_aheadOf? hs hslash
    rw [exec_productFrom_of_slash hat ht]
    exact operator hat (fun hs' hlt => h.factor hs' (by omega)) (fun _ => spends_quotient _ _)
      fun v hs' hlt => h.productFrom v hs' (by omega)
  · rw [exec_productFrom_of_ne ⟨hs, rfl⟩ hstar hslash]
    exact .ok hs (Nat.lt_succ_self _)

/-- With one more step a factor ends: it begins with a token that is accepted, and a name leaves
less to do than it was itself. -/
theorem factor_succ (hc : c.Acyclic) (h : SpendingWithin c n) (hs : s.1.cursor.Primed)
    (hn : 3 * c.due s + 1 ≤ n + 1) :
    Spends c (c.due s) s ((c.factor (n + 1)).exec s) := by
  by_cases hnumber : aheadOf? s.1.cursor.stream = some .number
  · obtain ⟨t, rest, hat, ht⟩ := Parser.At.of_aheadOf? hs hnumber
    rw [exec_factor_of_number hat ht]
    exact (spends_value t hat.take.primed (due_take_lt hat)).after (tally_take_le hat)
  by_cases hminus : aheadOf? s.1.cursor.stream = some .minus
  · obtain ⟨t, rest, hat, ht⟩ := Parser.At.of_aheadOf? hs hminus
    have hlt := due_take_lt (c := c) hat
    rw [exec_factor_of_minus hat ht]
    refine Spends.after (Spends.bind (h.factor hat.take.primed (by omega))
      fun v s' hs' hload => ?_) (tally_take_le hat)
    exact spends_within _ hs' (hload.trans hlt)
  by_cases hparen : aheadOf? s.1.cursor.stream = some .leftParen
  · obtain ⟨t, rest, hat, ht⟩ := Parser.At.of_aheadOf? hs hparen
    have hlt := due_take_lt (c := c) hat
    rw [exec_factor_of_leftParen hat ht]
    refine Spends.after (Spends.bind (h.sum hat.take.primed (by omega))
      fun v s' hs' hload => ?_) (tally_take_le hat)
    exact spends_close v hs' (hload.trans hlt)
  by_cases hident : aheadOf? s.1.cursor.stream = some .ident
  · obtain ⟨t, rest, hat, ht⟩ := Parser.At.of_aheadOf? hs hident
    rw [exec_factor_of_ident hat ht, exec_bind]
    obtain ⟨e, he, hexpand⟩ | ⟨us, hus, hexpand⟩ := exec_expand_cases c t (s.1.take t, s.2)
    · rw [hexpand]
      exact Spends.after (.error he) (tally_take_le hat)
    · -- the stream may be longer than it was, but there is less left to do
      have hlt := hc.due_replace_lt hat ht hus
      rw [hexpand]
      exact ((h.factor (hat.take.push us).primed (by omega)).mono hlt.le).after
        (hc.tally_replace hat ht hus).le
  · rw [exec_factor_of_ne ⟨hs, rfl⟩ hnumber hminus hparen hident]
    exact .diagnostic _

end SpendingWithin

/-- If no alias leads back to itself, the functions of the grammar end with any amount of steps that
is enough. -/
theorem spendingWithin (hc : c.Acyclic) (n : Nat) : SpendingWithin c n := by
  induction n with
  | zero =>
    -- there is always something left to do, if only to see that nothing is left
    constructor <;> intros <;> omega
  | succ n ih =>
    exact ⟨ih.sum_succ, ih.sumFrom_succ, ih.product_succ, ih.productFrom_succ, ih.factor_succ hc⟩

/-- The budget is enough for a whole text. -/
theorem spends_whole (hc : c.Acyclic) (hs : s.1.cursor.Primed) :
    Spends c (c.due s + 1) s (c.whole.exec s) := by
  rw [exec_whole]
  refine ((spendingWithin hc _).sum hs (c.load_lt_budget _)).bind fun v s' hs' hlt => ?_
  rw [exec_bind, exec_cursor, andThen_ok, exec_ite]
  split
  · exact .ok hs' (hlt.trans (Nat.lt_succ_self _))
  · exact .diagnostic _

/-! ## Counting names -/

/-- What is read leaves the tally as it was. -/
theorem Acyclic.tally_of_reads (hc : c.Acyclic) {x y : Reading Kind × Nat}
    {ts : List (Token Kind)} (h : Reads c x ts y) :
    y.2 + c.total y.1.stream = x.2 + c.total x.1.stream := by
  induction h with
  | stay => rfl
  | take ht _ ih => rw [ih, total_cons_of_ne ht]
  | replace ht hus _ ih =>
    rw [ih, total_cons_of_ident ht, hc.size_of_replacement? hus, total_append]
    omega

/-- If there is a value, then no names are left, and all that were to be replaced have been. -/
theorem Acyclic.count_of_whole (hc : c.Acyclic) (hs : s.1.cursor.Primed) {v : Int}
    (h : c.whole.exec s = (.ok v, s')) : s'.2 = c.tally s := by
  obtain ⟨hat, ts, hts, -⟩ := reaches_of_whole hs h
  have htally : c.tally s' = c.tally s := hc.tally_of_reads hts.reads
  rwa [tally, hat.stream_eq, total_nil, Nat.add_zero] at htally

/-- How the calculator ends in front of some tokens: it does, and the count grows by no more than
the total of the tokens, and by the total if there is a value. -/
theorem Acyclic.exec_whole (hc : c.Acyclic) (hs : s.1.cursor.Primed) :
    (c.whole.exec s).1 ≠ .error .endless ∧
      (c.whole.exec s).2.2 ≤ c.tally s ∧
      ∀ v, (c.whole.exec s).1 = .ok v → (c.whole.exec s).2.2 = c.tally s := by
  have hspends := spends_whole hc hs
  refine ⟨hspends.ends, (Nat.le_add_right _ _).trans hspends.tally_le, fun v hv => ?_⟩
  exact hc.count_of_whole hs (Prod.ext hv rfl)

/-- In front of some tokens the budget is enough, and more steps make no difference. -/
theorem Acyclic.exec_sum (hc : c.Acyclic) {ts : List (Token Kind)} (hat : s.1.At ts) {n : Nat}
    (hn : c.budget ts.length ≤ n) :
    ((c.sum n).exec s).1 ≠ .error .endless ∧
      (c.sum n).exec s = (c.sum (c.budget ts.length)).exec s := by
  have hdue : 3 * c.due s + 3 ≤ c.budget ts.length := by
    rw [due, hat.stream_eq]
    exact c.load_lt_budget ts
  have hbudget := (spendingWithin hc _).sum hat.primed hdue
  have hsum := (spendingWithin hc n).sum hat.primed (hdue.trans hn)
  exact ⟨hsum.ends, exec_sum_of_le hn hbudget.ends⟩

/-- How the calculator ends in front of tokens that are known. -/
theorem Acyclic.exec_at (hc : c.Acyclic) {ts : List (Token Kind)} (hat : s.1.At ts) :
    (c.whole.exec s).1 ≠ .error .endless ∧
      (∀ n, c.budget ts.length ≤ n → ((c.sum n).exec s).1 ≠ .error .endless ∧
        (c.sum n).exec s = (c.sum (c.budget ts.length)).exec s) ∧
      (c.whole.exec s).2.2 ≤ s.2 + c.total ts ∧
      ∀ v, (c.whole.exec s).1 = .ok v → (c.whole.exec s).2.2 = s.2 + c.total ts := by
  have htally : c.tally s = s.2 + c.total ts := by rw [tally, hat.stream_eq]
  obtain ⟨hends, hle, hvalue⟩ := hc.exec_whole hat.primed
  rw [htally] at hle hvalue
  exact ⟨hends, fun n hn => hc.exec_sum hat hn, hle, hvalue⟩

/-- How the value of a text is calculated: the same of the tokens of the text, if it has any. -/
theorem Acyclic.exec_evaluate (hc : c.Acyclic) (p : Parser Kind) (text : String) (m : Nat) :
    ((c.evaluate text).exec (p, m)).1 ≠ .error .endless ∧
      match p.lexer.lex text with
      | .error _ => ((c.evaluate text).exec (p, m)).2.2 = m
      | .ok ts => ((c.evaluate text).exec (p, m)).2.2 ≤ m + c.total ts ∧
        ∀ v, ((c.evaluate text).exec (p, m)).1 = .ok v →
          ((c.evaluate text).exec (p, m)).2.2 = m + c.total ts := by
  cases hlex : p.lexer.lex text with
  | error d =>
    have hne : Failure.diagnostic d ≠ .endless := nofun
    rw [evaluate, exec_parse_of_error hlex]
    exact ⟨fun h => hne (Except.error.inj h), rfl⟩
  | ok ts =>
    have hat : ((p.enter text).push ts).At ts :=
      ⟨Cursor.primed_push _ _, congrArg Reading.stream (Parser.reading_push_enter text ts p)⟩
    obtain ⟨hends, -, hle, hvalue⟩ := hc.exec_at (s := ((p.enter text).push ts, m)) hat
    rw [evaluate, exec_parse_of_ok hlex]
    exact ⟨hends, hle, hvalue⟩

/-- **Calculations come to an end, and it can be told beforehand how many names are replaced.** If
no alias leads back to itself, then a name has a size: it counts once, and so do the names in what
it stands for, with what they stand for. In front of any tokens the calculator comes to an end, and
more steps would make no difference. The count of replaced names grows by no more than the sizes of
the names among the tokens, and by all of them if there is a value. The same goes for the tokens of
a text; a text without tokens leaves the count as it is. -/
theorem counts_expansions (c : Calculator) (hc : c.Acyclic) :
    (∀ name, c.size name =
      match c.expansion? name with
      | none => 0
      | some expansion => 1 + ((namesOf expansion).map c.size).sum) ∧
    (∀ (p : Parser Kind) (text : String) (last : Option (Token Kind)) (ts : List (Token Kind))
        (m : Nat),
      let s : Parser Kind × Nat := (p.move (Reading.cursor ⟨text, last, ts⟩), m)
      let run := c.whole.exec s
      run.1 ≠ .error .endless ∧
      (∀ n, c.budget ts.length ≤ n → ((c.sum n).exec s).1 ≠ .error .endless ∧
        (c.sum n).exec s = (c.sum (c.budget ts.length)).exec s) ∧
      run.2.2 ≤ m + c.total ts ∧
      ∀ v, run.1 = .ok v → run.2.2 = m + c.total ts) ∧
    ∀ (p : Parser Kind) (text : String) (m : Nat),
      let run := (c.evaluate text).exec (p, m)
      run.1 ≠ .error .endless ∧
      match p.lexer.lex text with
      | .error _ => run.2.2 = m
      | .ok ts => run.2.2 ≤ m + c.total ts ∧ ∀ v, run.1 = .ok v → run.2.2 = m + c.total ts := by
  refine ⟨hc.size_eq, ?_, ?_⟩
  · intro p text last ts m s run
    exact hc.exec_at (p.at_move_cursor ⟨text, last, ts⟩)
  · exact fun p text m => hc.exec_evaluate p text m

/-- A name that stands for another one twice: three names are replaced. -/
theorem counts_expansions_of_two :
    let c := (empty.withAlias "one" [(.number, "1")]).withAlias "two"
      [(.ident, "one"), (.plus, "+"), (.ident, "one")]
    let run := (c.evaluate "two * 3").exec (.new lexer, 0)
    c.Acyclic ∧ c.size "two" = 3 ∧ run.1 = .ok 4 ∧ run.2.2 = 3 := by
  intro c run
  have hc : c.Acyclic := by decide +kernel
  have hvalue : run.1 = .ok 4 := by decide +kernel
  have htotal : (lexer.lex "two * 3").toOption.map c.total = some 3 := by decide +kernel
  obtain ⟨-, -, hcount⟩ := counts_expansions c hc
  obtain ⟨-, hcount⟩ := hcount (.new lexer) "two * 3" 0
  rw [Parser.lexer_new] at hcount
  refine ⟨hc, by decide +kernel, hvalue, ?_⟩
  generalize lexer.lex "two * 3" = r at hcount htotal
  cases r with
  | error d => cases htotal
  | ok ts =>
    rw [← Option.some.inj htotal, ← Nat.zero_add (c.total ts)]
    exact hcount.2 4 hvalue

end Descent.Calculator
