import Descent.Proofs.Calculator.Soundness

/-!
# Every calculation has its value

Without aliases, a derivation tells what the calculator does in front of its tokens: it reads them
and goes on with the value of the derivation, or fails if the derivation is not exact
(`Calculator.complete`). Together with soundness this says what calculations there are and which
values they have (`Calculator.exec_whole_empty_ok_iff`).

A sum is read from its left end, but its derivation begins with the last operator. So what is said
of a sum is not that it is read, but that in front of it the function for sums does what the
function that goes on from its value does behind it. The steps that are left over there are
counted: no token takes more than three.
-/

namespace Descent.Calculator

open Grammar

/-- In front of the tokens, whatever is behind them, the calculator goes on with the value of the
phrase, or fails if it has none. -/
def Complete : Phrase → List (Token Kind) → Option Int → Prop
  | .sum, ts, value? => ∀ {n s rest}, s.1.At (ts ++ rest) →
      aheadOf? rest ≠ some .star → aheadOf? rest ≠ some .slash → 3 * ts.length + 3 ≤ n →
      ∃ m s', n ≤ m + ts.length + 1 ∧ s'.1.At rest ∧
        (empty.sum n).yield? s = value?.bind fun v => (empty.sumFrom m v).yield? s'
  | .product, ts, value? => ∀ {n s rest}, s.1.At (ts ++ rest) → 3 * ts.length + 2 ≤ n →
      ∃ m s', n ≤ m + ts.length + 1 ∧ s'.1.At rest ∧
        (empty.product n).yield? s = value?.bind fun v => (empty.productFrom m v).yield? s'
  | .factor, ts, value? => ∀ {n s rest}, s.1.At (ts ++ rest) → 3 * ts.length ≤ n →
      ∃ s', s'.1.At rest ∧
        (empty.factor n).yield? s = value?.bind fun v => some (v, s')

namespace Complete

variable {ts us rest : List (Token Kind)} {t u : Token Kind} {a? b? : Option Int} {n : Nat}
  {s : Parser Kind × Nat}

/-! ## Whole operands -/

/-- A sum ends where no operator follows. -/
theorem exists_sum (h : Complete .sum ts a?) (hat : s.1.At (ts ++ rest))
    (hplus : aheadOf? rest ≠ some .plus) (hminus : aheadOf? rest ≠ some .minus)
    (hstar : aheadOf? rest ≠ some .star) (hslash : aheadOf? rest ≠ some .slash)
    (hn : 3 * ts.length + 3 ≤ n) :
    ∃ s', s'.1.At rest ∧ (empty.sum n).yield? s = a?.bind fun v => some (v, s') := by
  obtain ⟨m, s', hm, hat', hrun⟩ := h hat hstar hslash hn
  obtain ⟨k, rfl⟩ := Nat.exists_eq_add_one.2 (show 0 < m by omega)
  refine ⟨s', hat', hrun.trans ?_⟩
  congr 1
  funext v
  rw [yield?_eq_some_iff, exec_sumFrom_of_ne hat' hplus hminus]

/-- A product ends where neither `*` nor `/` follows. -/
theorem exists_product (h : Complete .product ts a?) (hat : s.1.At (ts ++ rest))
    (hstar : aheadOf? rest ≠ some .star) (hslash : aheadOf? rest ≠ some .slash)
    (hn : 3 * ts.length + 2 ≤ n) :
    ∃ s', s'.1.At rest ∧ (empty.product n).yield? s = a?.bind fun v => some (v, s') := by
  obtain ⟨m, s', hm, hat', hrun⟩ := h hat hn
  obtain ⟨k, rfl⟩ := Nat.exists_eq_add_one.2 (show 0 < m by omega)
  refine ⟨s', hat', hrun.trans ?_⟩
  congr 1
  funext v
  rw [yield?_eq_some_iff, exec_productFrom_of_ne hat' hstar hslash]

/-! ## The rules of the grammar -/

/-- A product is a sum. -/
theorem ofProduct (h : Complete .product ts a?) : Complete .sum ts a? := by
  intro n s rest hat hstar hslash hn
  obtain ⟨k, rfl⟩ := Nat.exists_eq_add_one.2 (show 0 < n by omega)
  obtain ⟨s', hat', hrun⟩ := h.exists_product (n := k) hat hstar hslash (by omega)
  refine ⟨k, s', by omega, hat', ?_⟩
  rw [yield?_congr exec_sum, yield?_bind, hrun, Option.bind_assoc]
  rfl

/-- A factor is a product. -/
theorem ofFactor (h : Complete .factor ts a?) : Complete .product ts a? := by
  intro n s rest hat hn
  obtain ⟨k, rfl⟩ := Nat.exists_eq_add_one.2 (show 0 < n by omega)
  obtain ⟨s', hat', hrun⟩ := h (n := k) hat (by omega)
  refine ⟨k, s', by omega, hat', ?_⟩
  rw [yield?_congr exec_product, yield?_bind, hrun, Option.bind_assoc]
  rfl

/-- If in front of an operator the calculator goes on from the value of what is on its left, then
behind what is on its right it goes on from the value of both. -/
theorem operator {f : Int → Int → Option Int} {first operand : Calculation Int}
    {here next : Int → Calculation Int} {combine : Int → Int → Calculation Int}
    {s₁ s₂ s' : Parser Kind × Nat}
    (hfirst : first.yield? s = a?.bind fun a => (here a).yield? s₁)
    (hhere : ∀ a, (here a).exec s₁ = (operand >>= fun b => combine a b >>= next).exec s₂)
    (hoperand : operand.yield? s₂ = b?.bind fun b => some (b, s'))
    (hcombine : ∀ a b s, (combine a b).yield? s = (f a b).bind fun v => some (v, s)) :
    first.yield? s = (a?.bind fun a => b?.bind fun b => f a b).bind fun v =>
      (next v).yield? s' := by
  rw [hfirst, Option.bind_assoc]
  congr 1
  funext a
  rw [yield?_congr (hhere a), yield?_bind, hoperand, Option.bind_assoc, Option.bind_assoc]
  congr 1
  funext b
  simp only [Option.bind_some, yield?_bind, hcombine, Option.bind_assoc]

/-- An operator between a sum and a product, where it makes the calculator go on from the sum. -/
theorem sumOperator {f : Int → Int → Option Int} {combine : Int → Int → Calculation Int}
    (hl : Complete .sum ts a?) (hstar : t.kind ≠ .star) (hslash : t.kind ≠ .slash)
    (hr : Complete .product us b?)
    (hhere : ∀ {k a s rest}, s.1.At (t :: rest) → (empty.sumFrom (k + 1) a).exec s =
      (empty.product k >>= fun b => combine a b >>= empty.sumFrom k).exec (s.1.take t, s.2))
    (hcombine : ∀ a b s, (combine a b).yield? s = (f a b).bind fun v => some (v, s)) :
    Complete .sum (ts ++ t :: us) (a?.bind fun a => b?.bind fun b => f a b) := by
  intro n s rest hat hstar' hslash' hn
  rw [List.append_assoc, List.cons_append] at hat
  rw [List.length_append, List.length_cons] at hn ⊢
  obtain ⟨m, s₁, hm, hat₁, hfirst⟩ :=
    hl (n := n) hat (aheadOf?_ne rfl hstar) (aheadOf?_ne rfl hslash) (by omega)
  obtain ⟨k, rfl⟩ := Nat.exists_eq_add_one.2 (show 0 < m by omega)
  obtain ⟨s', hat', hoperand⟩ :=
    hr.exists_product (n := k) (s := (s₁.1.take t, s₁.2)) hat₁.take hstar' hslash' (by omega)
  exact ⟨k, s', by omega, hat', operator hfirst (fun _ => hhere hat₁) hoperand hcombine⟩

/-- An operator between a product and a factor, where it makes the calculator go on from the
product. -/
theorem productOperator {f : Int → Int → Option Int} {combine : Int → Int → Calculation Int}
    (hl : Complete .product ts a?) (hr : Complete .factor us b?)
    (hhere : ∀ {k a s rest}, s.1.At (t :: rest) → (empty.productFrom (k + 1) a).exec s =
      (empty.factor k >>= fun b => combine a b >>= empty.productFrom k).exec (s.1.take t, s.2))
    (hcombine : ∀ a b s, (combine a b).yield? s = (f a b).bind fun v => some (v, s)) :
    Complete .product (ts ++ t :: us) (a?.bind fun a => b?.bind fun b => f a b) := by
  intro n s rest hat hn
  rw [List.append_assoc, List.cons_append] at hat
  rw [List.length_append, List.length_cons] at hn ⊢
  obtain ⟨m, s₁, hm, hat₁, hfirst⟩ := hl (n := n) hat (by omega)
  obtain ⟨k, rfl⟩ := Nat.exists_eq_add_one.2 (show 0 < m by omega)
  obtain ⟨s', hat', hoperand⟩ := hr (n := k) (s := (s₁.1.take t, s₁.2)) hat₁.take (by omega)
  exact ⟨k, s', by omega, hat', operator hfirst (fun _ => hhere hat₁) hoperand hcombine⟩

/-- A product may be added to a sum. -/
theorem add (hl : Complete .sum ts a?) (ht : t.kind = .plus) (hr : Complete .product us b?) :
    Complete .sum (ts ++ t :: us) (a?.bind fun a => b?.bind fun b => fit? (a + b)) :=
  hl.sumOperator (by rw [ht]; decide) (by rw [ht]; decide) hr
    (fun hat => exec_sumFrom_of_plus hat ht) fun _ _ _ => yield?_within _ _

/-- A product may be subtracted from a sum. -/
theorem sub (hl : Complete .sum ts a?) (ht : t.kind = .minus) (hr : Complete .product us b?) :
    Complete .sum (ts ++ t :: us) (a?.bind fun a => b?.bind fun b => fit? (a - b)) :=
  hl.sumOperator (by rw [ht]; decide) (by rw [ht]; decide) hr
    (fun hat => exec_sumFrom_of_minus hat ht) fun _ _ _ => yield?_within _ _

/-- A product may be multiplied with a factor. -/
theorem mul (hl : Complete .product ts a?) (ht : t.kind = .star) (hr : Complete .factor us b?) :
    Complete .product (ts ++ t :: us) (a?.bind fun a => b?.bind fun b => fit? (a * b)) :=
  hl.productOperator hr (fun hat => exec_productFrom_of_star hat ht) fun _ _ _ => yield?_within _ _

/-- A product may be divided by a factor. -/
theorem div (hl : Complete .product ts a?) (ht : t.kind = .slash) (hr : Complete .factor us b?) :
    Complete .product (ts ++ t :: us) (a?.bind fun a => b?.bind fun b => quotient? a b) :=
  hl.productOperator hr (fun hat => exec_productFrom_of_slash hat ht)
    fun _ _ _ => yield?_quotient _ _

/-- A number is a factor. -/
theorem number (ht : t.kind = .number) : Complete .factor [t] (number? t.value) := by
  intro n s rest hat hn
  rw [List.length_singleton] at hn
  obtain ⟨k, rfl⟩ := Nat.exists_eq_add_one.2 (show 0 < n by omega)
  rw [List.singleton_append] at hat
  refine ⟨(s.1.take t, s.2), hat.take, ?_⟩
  rw [yield?_congr (exec_factor_of_number hat ht), yield?_value]

/-- A name is a factor without a value, for there are no aliases. -/
theorem name (ht : t.kind = .ident) : Complete .factor [t] none := by
  intro n s rest hat hn
  rw [List.length_singleton] at hn
  obtain ⟨k, rfl⟩ := Nat.exists_eq_add_one.2 (show 0 < n by omega)
  rw [List.singleton_append] at hat
  refine ⟨(s.1.take t, s.2), hat.take, ?_⟩
  rw [yield?_congr (exec_factor_of_ident hat ht), yield?_bind, yield?_expand_empty]
  rfl

/-- A factor may be negated. -/
theorem neg (ht : t.kind = .minus) (h : Complete .factor ts a?) :
    Complete .factor (t :: ts) (a?.bind fun a => fit? (-a)) := by
  intro n s rest hat hn
  rw [List.length_cons] at hn
  obtain ⟨k, rfl⟩ := Nat.exists_eq_add_one.2 (show 0 < n by omega)
  rw [List.cons_append] at hat
  obtain ⟨s', hat', hrun⟩ := h (n := k) (s := (s.1.take t, s.2)) hat.take (by omega)
  refine ⟨s', hat', ?_⟩
  rw [yield?_congr (exec_factor_of_minus hat ht), yield?_bind, hrun]
  simp only [Option.bind_assoc, Option.bind_some, yield?_within]

/-- A sum in parentheses is a factor. -/
theorem group (ht : t.kind = .leftParen) (h : Complete .sum ts a?) (hu : u.kind = .rightParen) :
    Complete .factor (t :: (ts ++ [u])) a? := by
  intro n s rest hat hn
  rw [List.length_cons, List.length_append, List.length_singleton] at hn
  obtain ⟨k, rfl⟩ := Nat.exists_eq_add_one.2 (show 0 < n by omega)
  rw [List.cons_append, List.append_assoc, List.singleton_append] at hat
  -- the parenthesis behind the sum is no operator, so the sum ends there
  obtain ⟨s₁, hat₁, hrun⟩ := h.exists_sum (n := k) (s := (s.1.take t, s.2)) hat.take
    (aheadOf?_ne hu (by decide)) (aheadOf?_ne hu (by decide)) (aheadOf?_ne hu (by decide))
    (aheadOf?_ne hu (by decide)) (by omega)
  refine ⟨(s₁.1.take u, s₁.2), hat₁.take, ?_⟩
  rw [yield?_congr (exec_factor_of_leftParen hat ht), yield?_bind, hrun, Option.bind_assoc]
  congr 1
  funext v
  exact yield?_close_of_at hat₁ hu

end Complete

/-- **Every calculation has its value**: in front of the tokens of a derivation the calculator goes
on with its value, or fails if it is not exact. -/
theorem complete {φ : Phrase} {ts : List (Token Kind)} (d : Derivation φ ts) :
    Complete φ ts d.value? := by
  induction d with
  | ofProduct d ih => exact ih.ofProduct
  | add l ht r ihl ihr => exact ihl.add ht ihr
  | sub l ht r ihl ihr => exact ihl.sub ht ihr
  | ofFactor d ih => exact ih.ofFactor
  | mul l ht r ihl ihr => exact ihl.mul ht ihr
  | div l ht r ihl ihr => exact ihl.div ht ihr
  | number t ht => exact Complete.number ht
  | name t ht => exact Complete.name ht
  | neg ht d ih => exact ih.neg ht
  | group ht d hu ih => exact ih.group ht hu

theorem budget_empty (tokens : Nat) : empty.budget tokens = 4 * (tokens + 1024) := by
  simp [budget, empty, longest]

/-- In front of a derivation of all that is left, the calculator yields its value, or fails if it is
not exact. -/
theorem yield?_whole_empty {ts : List (Token Kind)} (d : Derivation .sum ts)
    {s : Parser Kind × Nat} (hat : s.1.At ts) :
    ∃ s', empty.whole.yield? s = d.value?.bind fun v => some (v, s') := by
  rw [← List.append_nil ts] at hat
  have hn : 3 * ts.length + 3 ≤ empty.budget s.1.cursor.stream.length := by
    rw [hat.stream_eq, List.append_nil, budget_empty]
    omega
  have hnil : ∀ {kind}, aheadOf? ([] : List (Token Kind)) ≠ some kind := nofun
  obtain ⟨s', hat', hrun⟩ := Complete.exists_sum (complete d) hat hnil hnil hnil hnil hn
  refine ⟨s', Option.ext fun ⟨v, s₁⟩ => ?_⟩
  rw [yield?_whole_eq_some_iff, hrun]
  constructor
  · exact fun h => h.1
  · intro h
    obtain ⟨w, -, heq⟩ := Option.bind_eq_some_iff.1 h
    obtain ⟨rfl, rfl⟩ := Prod.mk.inj (Option.some.inj heq)
    exact ⟨h, hat'.isExhausted_iff.2 rfl⟩

/-- If in front of some tokens the calculator has a value, then they are a sum with that value, all
of them have been accepted, and nothing else has changed. -/
theorem evaluates_of_exec_whole_empty {p : Parser Kind} {text : String}
    {last : Option (Token Kind)} {ts : List (Token Kind)} {m : Nat} {v : Int}
    {s' : Parser Kind × Nat}
    (h : empty.whole.exec (p.move (Reading.cursor ⟨text, last, ts⟩), m) = (.ok v, s')) :
    Evaluates .sum ts v ∧ s'.1.cursor = ⟨text, ts.getLast?, none, []⟩ ∧ s'.1.lexer = p.lexer ∧
      s'.2 = m := by
  have hat := p.at_move_cursor ⟨text, last, ts⟩
  obtain ⟨hat', us, hus, hphrase⟩ := reaches_of_whole hat.primed h
  obtain ⟨hstream, htext, hlast, hcount⟩ := hus.reads.eq_of_empty
  have hts : ts = us := calc
    ts = us ++ s'.1.cursor.stream := hat.stream_eq.symm.trans hstream
    _ = us := by rw [hat'.stream_eq, List.append_nil]
  subst hts
  refine ⟨hphrase, ?_, hus.lexer, hcount⟩
  have hlast' : s'.1.cursor.last = ts.getLast? := by
    obtain ⟨d, -⟩ := hphrase
    rw [List.getLast?_eq_some_getLast d.ne_nil] at hlast ⊢
    exact hlast
  have hreading : s'.1.cursor.reading = ⟨text, ts.getLast?, []⟩ := by
    rw [hat'.reading_eq, hlast']
    exact congrArg (Reading.mk · _ _) htext
  rw [← hat'.primed.cursor_reading, hreading]
  rfl

/-- **The calculator accepts its grammar and nothing else, and its values are exact.** In front of
any tokens it has a value if and only if they are a sum without names whose derivation is exact; the
value is that of the derivation. Then no derivation of the tokens leads to another value or out of
64 bits, and all tokens have been accepted. -/
theorem exec_whole_empty_ok_iff (p : Parser Kind) (text : String) (last : Option (Token Kind))
    (ts : List (Token Kind)) (m : Nat) (v : Int) :
    let run := empty.whole.exec (p.move (Reading.cursor ⟨text, last, ts⟩), m)
    (run.1 = .ok v ↔
      (∀ t ∈ ts, t.kind ≠ .ident) ∧ ∃ d : Derivation .sum ts, d.Exact ∧ d.value = v) ∧
    (run.1 = .ok v →
      (∀ d : Derivation .sum ts, d.Exact ∧ d.value = v) ∧
        run.2.1.cursor = ⟨text, ts.getLast?, none, []⟩ ∧ run.2.1.lexer = p.lexer ∧
          run.2.2 = m) := by
  intro run
  have hpair (hrun : run.1 = .ok v) : run = (.ok v, run.2) := Prod.ext hrun rfl
  have hsound (hrun : run.1 = .ok v) := evaluates_of_exec_whole_empty (hpair hrun)
  have hcomplete (d : Derivation .sum ts) :=
    yield?_whole_empty d (s := (p.move _, m)) (p.at_move_cursor ⟨text, last, ts⟩)
  refine ⟨⟨fun hrun => ?_, ?_⟩, fun hrun => ⟨fun d => ?_, (hsound hrun).2⟩⟩
  · obtain ⟨d, hexact, hvalue⟩ := evaluates_iff.1 (hsound hrun).1
    exact ⟨hexact.kind_ne_ident, d, hexact, hvalue⟩
  · rintro ⟨-, d, hd⟩
    obtain ⟨s', hyield⟩ := hcomplete d
    rw [d.value?_eq_some_iff.2 hd] at hyield
    exact congrArg Prod.fst (yield?_eq_some_iff.1 hyield)
  · -- the run does not depend on the derivation, and fails if the derivation is not exact
    obtain ⟨s', hyield⟩ := hcomplete d
    rw [yield?_eq_some_iff.2 (hpair hrun)] at hyield
    obtain ⟨w, hw, heq⟩ := Option.bind_eq_some_iff.1 hyield.symm
    obtain ⟨rfl, -⟩ := Prod.mk.inj (Option.some.inj heq)
    exact d.value?_eq_some_iff.1 hw

/-- The only quotient that does not fit although its operands do. -/
example : ((empty.evaluate "(-9223372036854775807 - 1) / -1").exec (.new lexer, 0)).1 =
    .error (.fault .divOverflow) := by
  decide +kernel

end Descent.Calculator
