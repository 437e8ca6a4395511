import Descent.Proofs.Calculator.Completeness
import Descent.Proofs.Calculator.Prefix
import Descent.Proofs.Calculator.Steps
import Descent.Proofs.Text.Boundary

/-!
# Errors are found at the first token that is wrong

Without aliases, the calculator goes over the tokens in step with the scan that tells the beginnings
of calculations (`Calculator.Awaiting.scan`). If it has no use for what is ahead, then neither has
the scan. So what has been accepted is the beginning of a calculation, and with one more token it is
not (`Calculator.exec_whole_empty_error`).

What a function of the grammar may do is told by the state of the scan (`Calculator.Ends`): a
function that begins where an operand is wanted ends where one has been read, in as many
parentheses, or is stuck together with the scan. There is a third way for it to end, which has
nothing to do with the tokens' order: a number that does not fit, or a name.

The proof is by induction on the amount of steps, with one lemma for each function of the grammar.
The amount is measured against the tokens that are left, so it also shows that it is enough.
-/

namespace Descent.Calculator

open Grammar Awaiting

/-! ## Failures that are not about the order of tokens -/

/-- The failure is about a number or a name, and not about what stands where. -/
def Failure.Semantic : Failure → Prop
  | .diagnostic d =>
    d.message ≠ Diagnostic.unexpectedToken ∧ d.message ≠ Diagnostic.unexpectedEnd
  | .fault _ => True
  | .endless => False

/-- Nothing is accepted, and if there is a failure then it is about a number or a name. -/
def Settles {α : Type} (g : Calculation α) : Prop :=
  ∀ s, (∃ a, g.exec s = (.ok a, s)) ∨ ∃ e : Failure, e.Semantic ∧ g.exec s = (.error e, s)

/-- Any other message is about a number or a name. -/
theorem settles_blame {α : Type} {message : String} (htoken : message ≠ Diagnostic.unexpectedToken)
    (hend : message ≠ Diagnostic.unexpectedEnd) :
    Settles (blame (·.lastError message) : Calculation α) :=
  fun s => .inr ⟨.diagnostic (s.1.cursor.lastError message), ⟨htoken, hend⟩, rfl⟩

/-- A result that does not fit is a failure about a number. -/
theorem settles_within (f : Fault) (n : Int) : Settles (within f n) := by
  intro s
  unfold within
  split
  · exact .inl ⟨n, rfl⟩
  · exact .inr ⟨.fault f, trivial, rfl⟩

/-- A number that is out of range is a failure about a number. -/
theorem settles_value (t : Token Kind) : Settles (value t) := by
  unfold value
  split
  · exact fun s => .inl ⟨_, rfl⟩
  · exact settles_blame (by decide) (by decide)

/-- A division by zero is a failure about a number. -/
theorem settles_quotient (a b : Int) : Settles (quotient a b) := by
  unfold quotient
  split
  · exact settles_blame (by decide) (by decide)
  · exact settles_within _ _

/-- Without aliases every name is unknown. -/
theorem settles_expand_empty (t : Token Kind) : Settles (empty.expand t) := by
  have hne {message : String} (h : message.toList[2]? ≠ some 'k') :
      "Unknown name " ++ t.display ≠ message := by
    rintro rfl
    exact h (by simp)
  exact settles_blame (hne (by decide)) (hne (by decide))

/-! ## In step with the scan -/

variable {s : Parser Kind × Nat} {us rest : List (Token Kind)} {t : Token Kind} {q q' : Awaiting}
  {n b d : Nat} {kinds : List Kind}

/-- The calculator behind some tokens, all of which it has accepted since the start, and in front of
others. -/
def between (s : Parser Kind × Nat) (us rest : List (Token Kind)) : Parser Kind × Nat :=
  (s.1.accepted us (Reading.cursor ⟨s.1.cursor.text, us.getLast?, rest⟩), s.2)

/-- Between two lists of tokens, the calculator is in front of the second. -/
theorem at_between (s : Parser Kind × Nat) (us rest : List (Token Kind)) :
    (between s us rest).1.At rest :=
  ⟨Reading.primed_cursor _, Reading.stream_cursor _⟩

/-- A token that is taken goes from the front of the second list to the end of the first. -/
theorem take_between (s : Parser Kind × Nat) (us rest : List (Token Kind)) (t : Token Kind) :
    ((between s us (t :: rest)).1.take t, (between s us (t :: rest)).2) =
      between s (us ++ [t]) rest := by
  rw [between, Parser.take, Parser.accepted_accepted, between, List.getLast?_concat]
  rfl

/-- The offset in a text at which tokens end, brought back to a boundary; the beginning of the text
if there are none. -/
def stopOf (text : String) (us : List (Token Kind)) : Nat :=
  match us.getLast? with
  | none => 0
  | some t => Text.clamp text.toList t.stop

/-- A diagnostic at the end of some tokens has the offset at which they end, brought back to a
boundary. -/
theorem grammatical_eq (message text : String) (us : List (Token Kind)) :
    Diagnostic.grammatical message text ((us.getLast?.map Token.stop).getD 0) =
      ⟨.grammatical, message, text, stopOf text us⟩ := by
  rw [Diagnostic.grammatical, stopOf]
  cases us.getLast? with
  | none =>
    have hzero := Text.clamp_of_mem_boundaries (Text.zero_mem_boundaries text.toList)
    exact congrArg _ hzero
  | some t => rfl

/-- With nothing left, more is expected. -/
theorem mismatch_between_nil (s : Parser Kind × Nat) (us : List (Token Kind)) :
    (between s us []).1.cursor.mismatch =
      ⟨.grammatical, Diagnostic.unexpectedEnd, s.1.cursor.text, stopOf s.1.cursor.text us⟩ :=
  grammatical_eq _ _ _

/-- With a token left that has no use, the token is unexpected. -/
theorem mismatch_between_cons (s : Parser Kind × Nat) (us rest : List (Token Kind))
    (t : Token Kind) :
    (between s us (t :: rest)).1.cursor.mismatch =
      ⟨.grammatical, Diagnostic.unexpectedToken, s.1.cursor.text, stopOf s.1.cursor.text us⟩ :=
  grammatical_eq _ _ _

/-- Some of the tokens have been accepted, and the scan has come to a state with them. -/
structure Progress (s : Parser Kind × Nat) (us rest : List (Token Kind)) (q : Awaiting) :
    Prop where
  append_eq : us ++ rest = s.1.cursor.stream
  scan_eq : (operand 0).scan us = some q

/-- A token that the scan gets over may be accepted. -/
theorem Progress.take (h : Progress s us (t :: rest) q) (hstep : q.step t.kind = some q') :
    Progress s (us ++ [t]) rest q' := by
  refine ⟨?_, ?_⟩
  · rw [List.append_assoc, List.singleton_append, h.append_eq]
  · rw [scan_append, h.scan_eq, Option.bind_some, scan_singleton, hstep]

/-- The scan cannot go on: what is ahead may not come here, or nothing is ahead where something has
to come. -/
def Awaiting.Stuck (q : Awaiting) : List (Token Kind) → Prop
  | [] => q ≠ operator 0
  | t :: _ => q.step t.kind = none

/-- What the scan has got over is the beginning of a calculation. -/
theorem Progress.viable (h : Progress s us rest q) : Viable us := viable_iff.2 ⟨q, h.scan_eq⟩

/-- Where the scan is stuck, no calculation goes on with what is ahead. -/
theorem Progress.not_viable_of_stuck (h : Progress s us (t :: rest) q)
    (hstuck : q.Stuck (t :: rest)) : ¬ Viable (us ++ [t]) := by
  have hstep : q.step t.kind = none := hstuck
  rw [viable_iff]
  rintro ⟨q', hq'⟩
  simp [h.scan_eq, hstep] at hq'

/-- Where the scan is stuck, no calculation ends. -/
theorem Progress.not_sentence_of_stuck (h : Progress s us [] q) (hstuck : q.Stuck []) :
    ¬ Sentence us := by
  rw [sentence_iff, h.scan_eq]
  exact fun heq => hstuck (Option.some.inj heq)

/-- Where a factor has to begin, what begins none is of no use. -/
theorem stuck_operand
    (h : ∀ kind ∈ [.number, .minus, .leftParen, .ident], aheadOf? rest ≠ some kind) :
    (operand d).Stuck rest := by
  cases rest with
  | nil => exact nofun
  | cons t rest =>
    change (operand d).step t.kind = none
    cases hkind : t.kind <;> simp_all [aheadOf?, step]

/-- Behind a factor, what is neither an operator nor the end of what is open is of no use. -/
theorem stuck_operator (h : ∀ kind ∈ [.plus, .minus, .star, .slash], aheadOf? rest ≠ some kind)
    (hright : aheadOf? rest = some .rightParen → d = 0) (hend : rest = [] → d ≠ 0) :
    (operator d).Stuck rest := by
  cases rest with
  | nil =>
    intro heq
    exact hend rfl (Awaiting.operator.inj heq)
  | cons t rest =>
    change (operator d).step t.kind = none
    cases hkind : t.kind <;> simp_all [aheadOf?, step]

/-- How a function of the grammar ends in some parentheses. -/
inductive Ends (s : Parser Kind × Nat) (b d : Nat) (kinds : List Kind) :
    Except Failure Int × (Parser Kind × Nat) → Prop where
  /-- with a value, behind a factor, with fewer tokens left and none of the kinds ahead -/
  | value {us rest : List (Token Kind)} (v : Int) (h : Progress s us rest (operator d))
      (hahead : ∀ kind ∈ kinds, aheadOf? rest ≠ some kind) (hlength : rest.length < b) :
      Ends s b d kinds (.ok v, between s us rest)
  /-- with a diagnostic of what is ahead, where the scan is stuck, too -/
  | stuck {us rest : List (Token Kind)} {q : Awaiting} (h : Progress s us rest q)
      (hstuck : q.Stuck rest) :
      Ends s b d kinds
        (.error (.diagnostic (between s us rest).1.cursor.mismatch), between s us rest)
  /-- with a failure that is about a number or a name -/
  | semantic {e : Failure} {s' : Parser Kind × Nat} (he : e.Semantic) :
      Ends s b d kinds (.error e, s')

namespace Ends

variable {b' d' : Nat} {kinds' : List Kind} {x : Parser Kind × Nat}

/-- What ends with fewer tokens left than some bound does so for a greater one. -/
theorem mono {r : Except Failure Int × (Parser Kind × Nat)} (h : Ends s b d kinds r)
    (hb : b ≤ b') : Ends s b' d kinds r := by
  cases h with
  | value v h hahead hlength => exact .value v h hahead (by omega)
  | stuck h hstuck => exact .stuck h hstuck
  | semantic he => exact .semantic he

/-- If the first function ends with a value, the second goes on from there. -/
theorem bind {g : Calculation Int} {f : Int → Calculation Int} (h : Ends s b d kinds (g.exec x))
    (hf : ∀ {us rest : List (Token Kind)} {v : Int}, Progress s us rest (operator d) →
      (∀ kind ∈ kinds, aheadOf? rest ≠ some kind) → rest.length < b →
      Ends s b' d' kinds' ((f v).exec (between s us rest))) :
    Ends s b' d' kinds' ((g >>= f).exec x) := by
  rw [exec_bind]
  generalize g.exec x = r at h
  cases h with
  | value v h hahead hlength => exact hf h hahead hlength
  | stuck h hstuck => exact .stuck h hstuck
  | semantic he => exact .semantic he

/-- What settles accepts nothing, so the calculation goes on from the same place, or fails for
another reason. -/
theorem bind_of_settles {α : Type} {g : Calculation α} {f : α → Calculation Int} (hg : Settles g)
    (hf : ∀ a, Ends s b d kinds ((f a).exec x)) : Ends s b d kinds ((g >>= f).exec x) := by
  rw [exec_bind]
  obtain ⟨a, ha⟩ | ⟨e, he, hexec⟩ := hg x
  · rw [ha]
    exact hf a
  · rw [hexec]
    exact .semantic he

/-- What settles may come last behind a factor. -/
theorem of_settles {g : Calculation Int} (hg : Settles g) (h : Progress s us rest (operator d))
    (hlength : rest.length < b) : Ends s b d [] (g.exec (between s us rest)) := by
  obtain ⟨v, hv⟩ | ⟨e, he, hexec⟩ := hg (between s us rest)
  · rw [hv]
    exact .value v h (List.forall_mem_nil _) hlength
  · rw [hexec]
    exact .semantic he

/-- Behind a sum in parentheses there is the parenthesis that closes it, or the scan is stuck. -/
theorem close {v : Int} (h : Progress s us rest (operator (d + 1)))
    (hahead : ∀ kind ∈ [.plus, .minus, .star, .slash], aheadOf? rest ≠ some kind)
    (hlength : rest.length ≤ b) : Ends s b d [] ((close v).exec (between s us rest)) := by
  have hat := at_between s us rest
  by_cases hright : aheadOf? rest = some .rightParen
  · obtain ⟨t, rest, rfl, ht⟩ := aheadOf?_eq_some_iff.1 hright
    rw [Calculator.close, exec_bind, exec_expect_of_at hat ht, take_between]
    rw [List.length_cons] at hlength
    exact .value v (h.take (by rw [ht]; rfl)) (List.forall_mem_nil _) (by omega)
  · rw [Calculator.close, exec_bind, exec_expect_of_ne hat hright]
    exact .stuck h (stuck_operator hahead (absurd · hright) fun _ => Nat.succ_ne_zero d)

end Ends

/-- With an amount of steps that is enough for the tokens that are left, the functions of the
grammar go over the tokens in step with the scan. -/
structure InStep (s : Parser Kind × Nat) (n : Nat) : Prop where
  sum {us rest : List (Token Kind)} {d : Nat} (hs : Progress s us rest (operand d))
    (hn : 3 * rest.length + 3 ≤ n) :
    Ends s rest.length d [.plus, .minus, .star, .slash]
      ((empty.sum n).exec (between s us rest))
  sumFrom {us rest : List (Token Kind)} {d : Nat} {v : Int}
    (hs : Progress s us rest (operator d))
    (hahead : ∀ kind ∈ [.star, .slash], aheadOf? rest ≠ some kind)
    (hn : 3 * rest.length + 1 ≤ n) :
    Ends s (rest.length + 1) d [.plus, .minus, .star, .slash]
      ((empty.sumFrom n v).exec (between s us rest))
  product {us rest : List (Token Kind)} {d : Nat} (hs : Progress s us rest (operand d))
    (hn : 3 * rest.length + 2 ≤ n) :
    Ends s rest.length d [.star, .slash] ((empty.product n).exec (between s us rest))
  productFrom {us rest : List (Token Kind)} {d : Nat} {v : Int}
    (hs : Progress s us rest (operator d)) (hn : 3 * rest.length + 1 ≤ n) :
    Ends s (rest.length + 1) d [.star, .slash]
      ((empty.productFrom n v).exec (between s us rest))
  factor {us rest : List (Token Kind)} {d : Nat} (hs : Progress s us rest (operand d))
    (hn : 3 * rest.length + 1 ≤ n) :
    Ends s rest.length d [] ((empty.factor n).exec (between s us rest))

namespace InStep

/-- A sum has a product first, and what is added comes behind it. -/
theorem sum_succ (h : InStep s n) (hs : Progress s us rest (operand d))
    (hn : 3 * rest.length + 3 ≤ n + 1) :
    Ends s rest.length d [.plus, .minus, .star, .slash]
      ((empty.sum (n + 1)).exec (between s us rest)) := by
  rw [exec_sum]
  -- a product ends with neither `*` nor `/` ahead, as what is added to it expects
  refine (h.product hs (by omega)).bind fun hs' hahead hlength => ?_
  exact (h.sumFrom hs' hahead (by omega)).mono (by omega)

/-- Behind `+` or `-` there is a product, and then the sum goes on. -/
theorem sumOperator {combine : Int → Calculation Int} (h : InStep s n)
    (hs : Progress s us (t :: rest) (operator d)) (ht : t.kind ∈ [.plus, .minus])
    (hcombine : ∀ w, Settles (combine w)) (hn : 3 * (t :: rest).length + 1 ≤ n + 1) :
    Ends s ((t :: rest).length + 1) d [.plus, .minus, .star, .slash]
      ((empty.product n >>= fun w => combine w >>= empty.sumFrom n).exec
        (between s (us ++ [t]) rest)) := by
  rw [List.length_cons] at hn ⊢
  have hkind : t.kind ∈ [.plus, .minus, .star, .slash] :=
    List.mem_append_left [Kind.star, .slash] ht
  refine (h.product (hs.take (step_operator hkind d)) (by omega)).bind
    fun hs' hahead hlength => .bind_of_settles (hcombine _) fun _ => ?_
  exact (h.sumFrom hs' hahead (by omega)).mono (by omega)

/-- Behind a product the scan awaits an operator, as the sum does. -/
theorem sumFrom_succ {v : Int} (h : InStep s n) (hs : Progress s us rest (operator d))
    (hahead : ∀ kind ∈ [.star, .slash], aheadOf? rest ≠ some kind)
    (hn : 3 * rest.length + 1 ≤ n + 1) :
    Ends s (rest.length + 1) d [.plus, .minus, .star, .slash]
      ((empty.sumFrom (n + 1) v).exec (between s us rest)) := by
  have hat := at_between s us rest
  by_cases hplus : aheadOf? rest = some .plus
  · obtain ⟨t, rest, rfl, ht⟩ := aheadOf?_eq_some_iff.1 hplus
    rw [exec_sumFrom_of_plus hat ht, take_between]
    exact h.sumOperator hs (by simp [ht]) (fun _ => settles_within _ _) hn
  by_cases hminus : aheadOf? rest = some .minus
  · obtain ⟨t, rest, rfl, ht⟩ := aheadOf?_eq_some_iff.1 hminus
    rw [exec_sumFrom_of_minus hat ht, take_between]
    exact h.sumOperator hs (by simp [ht]) (fun _ => settles_within _ _) hn
  · rw [exec_sumFrom_of_ne hat hplus hminus]
    have hnone : ∀ kind ∈ [.plus, .minus, .star, .slash], aheadOf? rest ≠ some kind := by
      simp_all
    exact .value v hs hnone (by omega)

/-- A product has a factor first, and what it is multiplied with comes behind it. -/
theorem product_succ (h : InStep s n) (hs : Progress s us rest (operand d))
    (hn : 3 * rest.length + 2 ≤ n + 1) :
    Ends s rest.length d [.star, .slash] ((empty.product (n + 1)).exec (between s us rest)) := by
  rw [exec_product]
  refine (h.factor hs (by omega)).bind fun hs' _ hlength => ?_
  exact (h.productFrom hs' (by omega)).mono (by omega)

/-- Behind `*` or `/` there is a factor, and then the product goes on. -/
theorem productOperator {combine : Int → Calculation Int} (h : InStep s n)
    (hs : Progress s us (t :: rest) (operator d)) (ht : t.kind ∈ [.star, .slash])
    (hcombine : ∀ w, Settles (combine w)) (hn : 3 * (t :: rest).length + 1 ≤ n + 1) :
    Ends s ((t :: rest).length + 1) d [.star, .slash]
      ((empty.factor n >>= fun w => combine w >>= empty.productFrom n).exec
        (between s (us ++ [t]) rest)) := by
  rw [List.length_cons] at hn ⊢
  have hkind : t.kind ∈ [.plus, .minus, .star, .slash] :=
    List.mem_append_right [Kind.plus, .minus] ht
  refine (h.factor (hs.take (step_operator hkind d)) (by omega)).bind
    fun hs' _ hlength => .bind_of_settles (hcombine _) fun _ => ?_
  exact (h.productFrom hs' (by omega)).mono (by omega)

/-- Behind a factor the scan awaits an operator, as the product does. -/
theorem productFrom_succ {v : Int} (h : InStep s n) (hs : Progress s us rest (operator d))
    (hn : 3 * rest.length + 1 ≤ n + 1) :
    Ends s (rest.length + 1) d [.star, .slash]
      ((empty.productFrom (n + 1) v).exec (between s us rest)) := by
  have hat := at_between s us rest
  by_cases hstar : aheadOf? rest = some .star
  · obtain ⟨t, rest, rfl, ht⟩ := aheadOf?_eq_some_iff.1 hstar
    rw [exec_productFrom_of_star hat ht, take_between]
    exact h.productOperator hs (by simp [ht]) (fun _ => settles_within _ _) hn
  by_cases hslash : aheadOf? rest = some .slash
  · obtain ⟨t, rest, rfl, ht⟩ := aheadOf?_eq_some_iff.1 hslash
    rw [exec_productFrom_of_slash hat ht, take_between]
    exact h.productOperator hs (by simp [ht]) (fun _ => settles_quotient _ _) hn
  · rw [exec_productFrom_of_ne hat hstar hslash]
    have hnone : ∀ kind ∈ [.star, .slash], aheadOf? rest ≠ some kind := by simp_all
    exact .value v hs hnone (by omega)

/-- A factor begins with one of four kinds, and these are what the scan awaits there. -/
theorem factor_succ (h : InStep s n) (hs : Progress s us rest (operand d))
    (hn : 3 * rest.length + 1 ≤ n + 1) :
    Ends s rest.length d [] ((empty.factor (n + 1)).exec (between s us rest)) := by
  have hat := at_between s us rest
  by_cases hnumber : aheadOf? rest = some .number
  · obtain ⟨t, rest, rfl, ht⟩ := aheadOf?_eq_some_iff.1 hnumber
    rw [exec_factor_of_number hat ht, take_between]
    exact .of_settles (settles_value t) (hs.take (by rw [ht]; rfl)) (Nat.lt_succ_self _)
  by_cases hminus : aheadOf? rest = some .minus
  · obtain ⟨t, rest, rfl, ht⟩ := aheadOf?_eq_some_iff.1 hminus
    rw [exec_factor_of_minus hat ht, take_between]
    rw [List.length_cons] at hn ⊢
    refine (h.factor (hs.take (by rw [ht]; rfl)) (by omega)).bind fun hs' _ hlength => ?_
    exact .of_settles (settles_within _ _) hs' (by omega)
  by_cases hparen : aheadOf? rest = some .leftParen
  · obtain ⟨t, rest, rfl, ht⟩ := aheadOf?_eq_some_iff.1 hparen
    rw [exec_factor_of_leftParen hat ht, take_between]
    rw [List.length_cons] at hn ⊢
    -- one more parenthesis is open for the sum
    refine (h.sum (hs.take (by rw [ht]; rfl)) (by omega)).bind fun hs' hahead hlength => ?_
    exact .close hs' hahead (by omega)
  by_cases hident : aheadOf? rest = some .ident
  · obtain ⟨t, rest, rfl, ht⟩ := aheadOf?_eq_some_iff.1 hident
    rw [exec_factor_of_ident hat ht, take_between, exec_bind]
    -- the name has been accepted, but it stands for nothing
    obtain ⟨_, hok⟩ | ⟨e, he, hexec⟩ := settles_expand_empty t (between s (us ++ [t]) rest)
    · cases hok
    · rw [hexec]
      exact .semantic he
  · rw [exec_factor_of_ne hat hnumber hminus hparen hident]
    exact .stuck hs (stuck_operand (by simp_all))

end InStep

/-- **The calculator is in step with the scan.** -/
theorem inStep (s : Parser Kind × Nat) (n : Nat) : InStep s n := by
  induction n with
  | zero =>
    -- there is always a step left, so this does not happen
    constructor <;> intros <;> omega
  | succ n ih =>
    exact ⟨ih.sum_succ, ih.sumFrom_succ, ih.product_succ, ih.productFrom_succ, ih.factor_succ⟩

/-! ## Whole texts -/

/-- A whole text ends with nothing ahead, or where the scan is stuck. -/
theorem ends_whole (h : Progress s [] rest (operand 0)) :
    Ends s (rest.length + 1) 0 Kind.all (empty.whole.exec (between s [] rest)) := by
  have hn : 3 * rest.length + 3 ≤ empty.budget (between s [] rest).1.cursor.stream.length := by
    rw [(at_between s [] rest).stream_eq, budget_empty]
    omega
  rw [exec_whole]
  refine ((inStep s _).sum h hn).bind fun {us rest' v} hs hahead hlength => ?_
  rw [exec_bind, exec_cursor, andThen_ok]
  cases rest' with
  | nil =>
    have hnothing (kind : Kind) : aheadOf? ([] : List (Token Kind)) ≠ some kind :=
      (Option.some_ne_none kind).symm
    exact .value v hs (fun kind _ => hnothing kind) (by omega)
  | cons t rest' =>
    -- what is ahead is no operator, and there is no parenthesis that it could close
    exact .stuck hs (stuck_operator hahead (fun _ => rfl) (absurd · (List.cons_ne_nil t rest')))

namespace Ends

variable {e : Diagnostic} {s' : Parser Kind × Nat}

/-- The calculator comes to an end. -/
theorem ne_endless {r : Except Failure Int × (Parser Kind × Nat)} (h : Ends s b d kinds r) :
    r.1 ≠ .error .endless := by
  cases h with
  | value | stuck => exact nofun
  | semantic he =>
    rintro ⟨⟩
    exact he

/-- If a token is unexpected, then no calculation goes on with it. -/
theorem of_unexpectedToken (h : Ends s b d kinds (.error (.diagnostic e), s'))
    (he : e.message = Diagnostic.unexpectedToken) :
    ∃ us t rest, us ++ t :: rest = s.1.cursor.stream ∧ s' = between s us (t :: rest) ∧
      Viable us ∧ ¬ Viable (us ++ [t]) ∧
      e = ⟨.grammatical, Diagnostic.unexpectedToken, s.1.cursor.text,
        stopOf s.1.cursor.text us⟩ := by
  cases h with
  | semantic hsemantic => exact absurd he hsemantic.1
  | @stuck us rest q h hstuck =>
    cases rest with
    | nil =>
      rw [mismatch_between_nil] at he
      have hne : Diagnostic.unexpectedEnd ≠ Diagnostic.unexpectedToken := by decide
      exact absurd he hne
    | cons t rest =>
      exact ⟨us, t, rest, h.append_eq, rfl, h.viable, h.not_viable_of_stuck hstuck,
        mismatch_between_cons s us rest t⟩

/-- If more is expected, then nothing is left, and all that was there is not a calculation yet. -/
theorem of_unexpectedEnd (h : Ends s b d kinds (.error (.diagnostic e), s'))
    (he : e.message = Diagnostic.unexpectedEnd) :
    s' = between s s.1.cursor.stream [] ∧ (∃ us, us ≠ [] ∧ Sentence (s.1.cursor.stream ++ us)) ∧
      ¬ Sentence s.1.cursor.stream ∧
      e = ⟨.grammatical, Diagnostic.unexpectedEnd, s.1.cursor.text,
        stopOf s.1.cursor.text s.1.cursor.stream⟩ := by
  cases h with
  | semantic hsemantic => exact absurd he hsemantic.2
  | @stuck us rest q h hstuck =>
    cases rest with
    | nil =>
      have hall : us = s.1.cursor.stream := by rw [← h.append_eq, List.append_nil]
      rw [← hall]
      have hnot := h.not_sentence_of_stuck hstuck
      obtain ⟨vs, hvs⟩ := viable_iff_exists_append.1 h.viable
      refine ⟨rfl, ⟨vs, ?_, hvs⟩, hnot, mismatch_between_nil s us⟩
      rintro rfl
      rw [List.append_nil] at hvs
      exact hnot hvs
    | cons t rest =>
      rw [mismatch_between_cons] at he
      have hne : Diagnostic.unexpectedToken ≠ Diagnostic.unexpectedEnd := by decide
      exact absurd he hne

end Ends

/-- **Errors are found at the first token that is wrong.** In front of any tokens, the calculator
without aliases comes to an end. If it finds a token unexpected, then the tokens that it has
accepted are the beginning of a calculation, and with the unexpected one, which is next, they are
not. If it finds more expected, then it has accepted all tokens, and they are the beginning of a
calculation but not a whole one. Either way the diagnostic points behind the last token that was
accepted. -/
theorem exec_whole_empty_error (p : Parser Kind) (text : String) (ts : List (Token Kind))
    (m : Nat) :
    let run := empty.whole.exec (p.move (Reading.cursor ⟨text, none, ts⟩), m)
    run.1 ≠ .error .endless ∧
    (∀ d, run.1 = .error (.diagnostic d) → d.message = Diagnostic.unexpectedToken →
      ∃ us t rest, ts = us ++ [t] ++ rest ∧
        run.2 = (p.accepted us ⟨text, us.getLast?, some t, rest⟩, m) ∧
        Viable us ∧ ¬ Viable (us ++ [t]) ∧
        d = ⟨.grammatical, Diagnostic.unexpectedToken, text, stopOf text us⟩) ∧
    (∀ d, run.1 = .error (.diagnostic d) → d.message = Diagnostic.unexpectedEnd →
      run.2 = (p.accepted ts ⟨text, ts.getLast?, none, []⟩, m) ∧
        (∃ us, us ≠ [] ∧ Sentence (ts ++ us)) ∧ ¬ Sentence ts ∧
        d = ⟨.grammatical, Diagnostic.unexpectedEnd, text, stopOf text ts⟩) := by
  intro run
  set s : Parser Kind × Nat := (p.move (Reading.cursor ⟨text, none, ts⟩), m) with hs
  have hstream : s.1.cursor.stream = ts := Reading.stream_cursor _
  -- nothing has been accepted yet
  have hstart : between s [] ts = s := by
    simp [hs, between, Parser.accepted, Parser.move, Parser.tell, Reading.cursor]
  have hends : Ends s (ts.length + 1) 0 Kind.all run := by
    have h := ends_whole (s := s) ⟨hstream.symm, rfl⟩
    rwa [hstart] at h
  have hpair {d : Diagnostic} (hd : run.1 = .error (.diagnostic d)) :
      run = (.error (.diagnostic d), run.2) := Prod.ext hd rfl
  refine ⟨hends.ne_endless, fun d hd hmessage => ?_, fun d hd hmessage => ?_⟩
  · rw [hpair hd] at hends
    obtain ⟨us, t, rest, happend, hstate, hrest⟩ := hends.of_unexpectedToken hmessage
    exact ⟨us, t, rest, by simp [happend, hstream], hstate, hrest⟩
  · rw [hpair hd] at hends
    have h := hends.of_unexpectedEnd hmessage
    rwa [hstream] at h

/-- A parenthesis is closed where a factor has to begin, or the text ends there. Either way `2 *` is
the beginning of a calculation, and the diagnostic points behind it. -/
theorem exec_whole_empty_error_of_product :
    let text := "2 * )"
    let two : Token Kind := ⟨.number, "2", 0, 1⟩
    let star : Token Kind := ⟨.star, "*", 2, 3⟩
    let close : Token Kind := ⟨.rightParen, ")", 4, 5⟩
    let result (ts : List (Token Kind)) :=
      (empty.whole.exec ((Parser.new lexer).move (Reading.cursor ⟨text, none, ts⟩), 0)).1
    result [two, star, close] =
        .error (.diagnostic ⟨.grammatical, Diagnostic.unexpectedToken, text, 3⟩) ∧
      Viable [two, star] ∧ ¬ Viable [two, star, close] ∧
      result [two, star] =
        .error (.diagnostic ⟨.grammatical, Diagnostic.unexpectedEnd, text, 3⟩) ∧
      (∃ us, us ≠ [] ∧ Sentence ([two, star] ++ us)) ∧ ¬ Sentence [two, star] := by
  intro text two star close result
  have htoken : result [two, star, close] =
      .error (.diagnostic ⟨.grammatical, Diagnostic.unexpectedToken, text, 3⟩) := by
    decide +kernel
  have hend : result [two, star] =
      .error (.diagnostic ⟨.grammatical, Diagnostic.unexpectedEnd, text, 3⟩) := by
    decide +kernel
  obtain ⟨-, hunexpected, -⟩ :=
    exec_whole_empty_error (.new lexer) text [two, star, close] 0
  obtain ⟨us, t, rest, hts, -, hviable, hnot, hd⟩ := hunexpected _ htoken rfl
  obtain ⟨-, -, hmore⟩ := exec_whole_empty_error (.new lexer) text [two, star] 0
  obtain ⟨-, hproper, hsentence, -⟩ := hmore _ hend rfl
  have hstop : stopOf text [two] = 1 := by decide +kernel
  have hus : us = [two, star] ∧ t = close := by
    -- the diagnostic points behind the tokens that have been accepted
    rcases us with _ | ⟨u, _ | ⟨v, _ | ⟨w, us⟩⟩⟩
    · simp [stopOf] at hd
    · obtain ⟨rfl, -⟩ : two = u ∧ [star, close] = t :: rest := by simpa using hts
      simp [hstop] at hd
    · obtain ⟨rfl, rfl, rfl, -⟩ : two = u ∧ star = v ∧ close = t ∧ rest = [] := by simpa using hts
      exact ⟨rfl, rfl⟩
    · simp at hts
  rw [hus.1] at hviable hnot
  rw [hus.2] at hnot
  exact ⟨htoken, hviable, hnot, hend, hproper, hsentence⟩

end Descent.Calculator
