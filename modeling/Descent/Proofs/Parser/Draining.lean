import Descent.Proofs.Parser.Refinement
import Mathlib.Data.List.TakeWhile

/-!
# Draining a stream

A loop tries to accept the lookahead as one kind after the other (`Grammar.acceptOneOf?`), and it
goes round for as long as something is accepted (`Grammar.Loops`). Nothing is left of the kinds that
were tried in vain, so that a round accepts the lookahead if it is of any of the kinds, and changes
nothing otherwise (`Grammar.exec_acceptOneOf?`). To drain a stream is to do all rounds at once
(`Grammar.loops_iff`).

Therefore the loop takes tokens off the stream for as long as they are of any of the kinds
(`Cursor.Primed.drain_eq`): it takes the longest beginning of the stream that has no other tokens,
and the order in which the kinds are tried plays no part (`Grammar.loop_takes_longest`).
-/

namespace Descent

variable {κ σ : Type} [BEq κ]

/-- Is the token of one of the kinds? -/
def Token.isAny (kinds : List κ) (t : Token κ) : Bool := kinds.any t.isA

theorem Token.isAny_iff {kinds : List κ} {t : Token κ} :
    t.isAny kinds = true ↔ ∃ kind ∈ kinds, (t.kind == kind) = true := by
  simp [isAny, isA]

/-- Each kind of one list is equal to a kind of the other. -/
def SameKinds (kinds kinds' : List κ) : Prop :=
  (∀ k ∈ kinds, ∃ j ∈ kinds', (k == j) = true) ∧ ∀ k ∈ kinds', ∃ j ∈ kinds, (k == j) = true

/-- Of lists with the same kinds, a token is of a kind of both or of neither. -/
theorem SameKinds.isAny_eq [EquivBEq κ] {kinds kinds' : List κ} (h : SameKinds kinds kinds') :
    (Token.isAny kinds : Token κ → Bool) = Token.isAny kinds' := by
  funext t
  rw [Bool.eq_iff_iff, Token.isAny_iff, Token.isAny_iff]
  constructor
  · rintro ⟨k, hk, htk⟩
    obtain ⟨j, hj, hkj⟩ := h.1 k hk
    exact ⟨j, hj, PartialEquivBEq.trans htk hkj⟩
  · rintro ⟨k, hk, htk⟩
    obtain ⟨j, hj, hkj⟩ := h.2 k hk
    exact ⟨j, hj, PartialEquivBEq.trans htk hkj⟩

/-! ## At a cursor -/

namespace Cursor

variable {kinds kinds' : List κ} {c d : Cursor κ} {t : Token κ}

/-- It does not matter which of the kinds the lookahead is of. -/
theorem acceptAny?_of_next (hnext : c.next = some t) (kinds : List κ) :
    c.acceptAny? kinds =
      if t.isAny kinds then some (t, { c with last := some t }.advance) else none := by
  unfold acceptAny?
  induction kinds with
  | nil => rfl
  | cons kind kinds ih =>
    have haccept : c.accept? kind =
        if t.isA kind then some (t, { c with last := some t }.advance) else none := by
      rw [accept?, hnext]
    by_cases hkind : t.isA kind = true
    · simp [Token.isAny, haccept, hkind]
    · simpa [Token.isAny, haccept, hkind] using ih

theorem acceptAny?_of_exhausted (hnext : c.next = none) (kinds : List κ) :
    c.acceptAny? kinds = none := by
  simp [acceptAny?, accept?, hnext]

theorem drain_of_none (h : c.acceptAny? kinds = none) : c.drain kinds = ([], c) := by
  unfold drain
  split
  · rfl
  · rename_i hsome
    cases h.symm.trans hsome

theorem drain_of_some (h : c.acceptAny? kinds = some (t, d)) :
    c.drain kinds = (t :: (d.drain kinds).1, (d.drain kinds).2) := by
  rw [drain]
  split
  · rename_i hnone
    cases h.symm.trans hnone
  · rename_i u e hsome
    obtain ⟨rfl, rfl⟩ := Prod.mk.inj (Option.some.inj (h.symm.trans hsome))
    rfl

/-- **A stream is drained of the tokens that it begins with**, as far as they are of the kinds. -/
theorem Primed.drain_eq (hc : c.Primed) (kinds : List κ) :
    (c.drain kinds).1 = c.stream.takeWhile (Token.isAny kinds) ∧ (c.drain kinds).2.Primed ∧
      (c.drain kinds).2.reading =
        ⟨c.text, (c.stream.takeWhile (Token.isAny kinds)).getLast?.or c.last,
          c.stream.dropWhile (Token.isAny kinds)⟩ := by
  have hnext := hc.next_eq
  generalize hstream : c.stream = stream at hnext ⊢
  induction stream generalizing c with
  | nil =>
    rw [drain_of_none (acceptAny?_of_exhausted hnext kinds), reading, hstream]
    exact ⟨rfl, hc, rfl⟩
  | cons t rest ih =>
    have haccept := acceptAny?_of_next hnext kinds
    by_cases ht : t.isAny kinds = true
    · rw [if_pos ht] at haccept
      have hpending := hc.pending_eq
      rw [hstream, List.tail_cons] at hpending
      -- the cursor behind the token stands in front of the rest
      obtain ⟨htaken, hprimed, hreading⟩ := ih (c := { c with last := some t }.advance)
        (primed_advance _) ((stream_advance _).trans hpending) (congrArg List.head? hpending)
      rw [drain_of_some haccept, List.takeWhile_cons_of_pos ht, List.dropWhile_cons_of_pos ht,
        List.getLast?_cons]
      refine ⟨congrArg (t :: ·) htaken, hprimed, hreading.trans ?_⟩
      cases (rest.takeWhile (Token.isAny kinds)).getLast? <;> rfl
    · rw [if_neg ht] at haccept
      rw [drain_of_none haccept, List.takeWhile_cons_of_neg ht, List.dropWhile_cons_of_neg ht,
        reading, hstream]
      exact ⟨rfl, hc, rfl⟩

/-- Lists that say the same of every token drain a stream alike. -/
theorem drain_congr (h : (Token.isAny kinds : Token κ → Bool) = Token.isAny kinds')
    (c : Cursor κ) : c.drain kinds = c.drain kinds' := by
  have haccept (c : Cursor κ) : c.acceptAny? kinds = c.acceptAny? kinds' := by
    cases hnext : c.next with
    | none => rw [acceptAny?_of_exhausted hnext, acceptAny?_of_exhausted hnext]
    | some t => rw [acceptAny?_of_next hnext, acceptAny?_of_next hnext, h]
  fun_induction drain kinds c with
  | case1 c hnone => rw [drain_of_none ((haccept c).symm.trans hnone)]
  | case2 c t d hsome tokens e hdrain ih =>
    rw [drain_of_some ((haccept c).symm.trans hsome), ← ih, hdrain]

end Cursor

/-! ## The loop -/

namespace Grammar

variable {ε : Type}

/-- One round of the loop: the lookahead is tried as one kind after the other, until it is
accepted. -/
def acceptOneOf? : List κ → Grammar κ σ ε (Option (Token κ))
  | [] => return none
  | kind :: kinds => do
    match ← accept? kind with
    | some t => return some t
    | none => acceptOneOf? kinds

/-- The loop: one round after the other, until nothing is accepted. It yields the tokens that were
accepted. -/
inductive Loops (ε : Type) (kinds : List κ) :
    Parser κ × σ → List (Token κ) → Parser κ × σ → Prop where
  /-- in the last round nothing is accepted -/
  | stop {s s' : Parser κ × σ}
      (h : (acceptOneOf? kinds : Grammar κ σ ε _).exec s = (.ok none, s')) : Loops ε kinds s [] s'
  /-- in a round a token is accepted, and there is another round -/
  | round {s s₁ s' : Parser κ × σ} {t : Token κ} {ts : List (Token κ)}
      (h : (acceptOneOf? kinds : Grammar κ σ ε _).exec s = (.ok (some t), s₁))
      (rest : Loops ε kinds s₁ ts s') : Loops ε kinds s (t :: ts) s'

variable {kinds kinds' : List κ} {s s' s'' : Parser κ × σ} {ts us : List (Token κ)}

/-- **A round leaves nothing of the kinds that were tried in vain.** It accepts the lookahead if it
is of any of the kinds. -/
theorem exec_acceptOneOf? (kinds : List κ) (s : Parser κ × σ) :
    (acceptOneOf? kinds : Grammar κ σ ε _).exec s =
      match s.1.cursor.acceptAny? kinds with
      | some (t, c) => (.ok (some t), (s.1.accepted [t] c, s.2))
      | none => (.ok none, s) := by
  induction kinds with
  | nil => rfl
  | cons kind kinds ih =>
    rw [acceptOneOf?, exec_bind, exec_accept?, Cursor.acceptAny?, List.findSome?_cons]
    rcases s.1.cursor.accept? kind with _ | ⟨t, c⟩
    · exact ih
    · rfl

theorem exec_drain (kinds : List κ) (s : Parser κ × σ) :
    (drain kinds : Grammar κ σ ε _).exec s =
      (.ok (s.1.cursor.drain kinds).1,
        (s.1.accepted (s.1.cursor.drain kinds).1 (s.1.cursor.drain kinds).2, s.2)) := rfl

/-- The loop comes to one end only. -/
theorem Loops.unique (h : Loops ε kinds s ts s') (h' : Loops ε kinds s us s'') :
    ts = us ∧ s' = s'' := by
  induction h generalizing us with
  | stop h =>
    cases h' with
    | stop h' => exact ⟨rfl, (Prod.mk.inj (h.symm.trans h')).2⟩
    | round h' => cases h.symm.trans h'
  | round h _ ih =>
    cases h' with
    | stop h' => cases h.symm.trans h'
    | round h' hrest' =>
      obtain ⟨ht, rfl⟩ := Prod.mk.inj (h.symm.trans h')
      obtain rfl := Option.some.inj (Except.ok.inj ht)
      obtain ⟨rfl, rfl⟩ := ih hrest'
      exact ⟨rfl, rfl⟩

/-- **The loop comes to an end**, wherever it begins: where the stream has been drained. -/
theorem loops_drain (ε : Type) (kinds : List κ) (p : Parser κ) (m : σ) :
    Loops ε kinds (p, m) (p.cursor.drain kinds).1
      (p.accepted (p.cursor.drain kinds).1 (p.cursor.drain kinds).2, m) := by
  generalize hc : p.cursor = c
  fun_induction c.drain kinds generalizing p with
  | case1 c hnone =>
    have hround := exec_acceptOneOf? (ε := ε) kinds (p, m)
    simp only [hc, hnone] at hround
    have hp : p.accepted [] c = p := by simp [Parser.accepted, Parser.move, Parser.tell, ← hc]
    rw [hp]
    exact .stop hround
  | case2 c t d hsome tokens e hdrain ih =>
    have hround := exec_acceptOneOf? (ε := ε) kinds (p, m)
    simp only [hc, hsome] at hround
    have hrest := ih (p.accepted [t] d) rfl
    rw [hdrain, Parser.accepted_accepted] at hrest
    exact .round hround hrest

/-- To drain a stream is to do all rounds of the loop at once. -/
theorem loops_iff {p : Parser κ} {m : σ} :
    Loops ε kinds (p, m) ts s ↔ (drain kinds : Grammar κ σ ε _).exec (p, m) = (.ok ts, s) := by
  rw [exec_drain]
  constructor
  · intro h
    obtain ⟨rfl, rfl⟩ := (loops_drain ε kinds p m).unique h
    rfl
  · intro h
    obtain ⟨hts, rfl⟩ := Prod.mk.inj h
    obtain rfl := Except.ok.inj hts
    exact loops_drain ε kinds p m

/-- **Draining takes the longest beginning of a stream.** From every state that a parser can be in,
the loop comes to an end, and to one only; it does what draining does. What it has accepted is the
longest beginning of the stream in which all tokens are of the kinds, and the others are left. The
last token is the last of those that were accepted, if there are any, and the text is what it was.
Lists with the same kinds, in whatever order and however often, make no difference. If all tokens of
the stream are of the kinds, then nothing is left. -/
theorem loop_takes_longest [EquivBEq κ] {p : Parser κ} (hp : p.lexer.Reachable p.cursor)
    (kinds : List κ) (m : σ) :
    let stream := p.cursor.next.toList ++ p.cursor.pending
    ∃ taken rest q,
      Loops ε kinds (p, m) taken (q, m) ∧
      (∀ ts s, Loops ε kinds (p, m) ts s → ts = taken ∧ s = (q, m)) ∧
      (drain kinds : Grammar κ σ ε _).exec (p, m) = (.ok taken, (q, m)) ∧
      stream = taken ++ rest ∧
      (∀ t ∈ taken, ∃ kind ∈ kinds, (t.kind == kind) = true) ∧
      (∀ ts, ts <+: stream → (∀ t ∈ ts, ∃ kind ∈ kinds, (t.kind == kind) = true) →
        ts <+: taken) ∧
      q.cursor.next.toList ++ q.cursor.pending = rest ∧
      q.cursor.last = taken.getLast?.or p.cursor.last ∧ q.cursor.text = p.cursor.text ∧
      (∀ kinds', SameKinds kinds kinds' → ∀ ts s,
        Loops ε kinds' (p, m) ts s ↔ ts = taken ∧ s = (q, m)) ∧
      ((∀ t ∈ stream, ∃ kind ∈ kinds, (t.kind == kind) = true) →
        taken = stream ∧ q.cursor.isExhausted = true ∧ q.cursor.pending.length = 0) := by
  intro stream
  obtain ⟨htaken, hprimed, hreading⟩ := hp.primed.drain_eq kinds
  obtain ⟨htext, hlast, hrest⟩ := Reading.mk.inj hreading
  have hloop := loops_drain ε kinds p m
  simp only [← Token.isAny_iff]
  refine ⟨_, _, _, hloop, fun ts s h => h.unique hloop, exec_drain kinds _, ?_, ?_, ?_, hrest, ?_,
    htext, ?_, ?_⟩
  · rw [htaken, List.takeWhile_append_dropWhile]
    rfl
  · rw [htaken]
    exact fun t => List.mem_takeWhile_imp
  · rintro ts ⟨others, hothers⟩ hts
    have hsplit : p.cursor.stream = ts ++ others := hothers.symm
    rw [htaken, hsplit, List.takeWhile_append_of_pos hts]
    exact List.prefix_append _ _
  · rw [htaken]
    exact hlast
  · intro kinds' hsame ts s
    rw [loops_iff, exec_drain, ← Cursor.drain_congr hsame.isAny_eq, ← exec_drain, ← loops_iff]
    constructor
    · exact fun h => h.unique hloop
    · rintro ⟨rfl, rfl⟩
      exact hloop
  · intro hall
    have hnone : (p.cursor.drain kinds).2.stream = [] :=
      hrest.trans (List.dropWhile_eq_nil_iff.2 hall)
    have hnext := hprimed.next_eq_none_iff.2 hnone
    refine ⟨htaken.trans (List.takeWhile_eq_self_iff.2 hall), Option.isNone_iff_eq_none.2 hnext, ?_⟩
    exact congrArg List.length (hprimed hnext)

/-- Of four tokens, those before the first one of another kind are taken, and it makes no difference
if the kinds are tried the other way round and one of them twice. -/
theorem loop_takes_longest_of_four :
    let tokens : List (Token Nat) :=
      [⟨0, "a", 0, 1⟩, ⟨1, "b", 1, 2⟩, ⟨2, "c", 2, 3⟩, ⟨0, "d", 3, 4⟩]
    let p := (Parser.new ⟨[]⟩).push tokens
    p.lexer.Reachable p.cursor ∧ SameKinds [1, 0] [0, 1, 0] ∧
      ∃ q, Loops Diagnostic [1, 0] (p, ()) (tokens.take 2) (q, ()) ∧
        Loops Diagnostic [0, 1, 0] (p, ()) (tokens.take 2) (q, ()) ∧
        q.cursor.next.toList ++ q.cursor.pending = tokens.drop 2 ∧
        q.cursor.last = some ⟨1, "b", 1, 2⟩ := by
  intro tokens p
  have hp : p.lexer.Reachable p.cursor := .push .new tokens
  have hsame : SameKinds [1, 0] [0, 1, 0] := by unfold SameKinds; decide
  obtain ⟨taken, rest, q, hloop, -, -, hstream, hall, hlongest, hrest, hlast, -, hany, -⟩ :=
    loop_takes_longest (ε := Diagnostic) hp [1, 0] ()
  obtain ⟨more, rfl⟩ := hlongest (tokens.take 2) ⟨tokens.drop 2, rfl⟩ (by decide)
  have hdrop : tokens.drop 2 = more ++ rest := by
    rw [List.append_assoc] at hstream
    have htokens : tokens.take 2 ++ tokens.drop 2 = tokens.take 2 ++ (more ++ rest) := hstream
    exact List.append_cancel_left htokens
  cases more with
  | nil =>
    rw [List.append_nil] at hloop hlast hany
    exact ⟨hp, hsame, q, hloop, (hany _ hsame _ _).2 ⟨rfl, rfl⟩, hrest.trans hdrop.symm, hlast⟩
  | cons t more =>
    -- the third token is of neither kind
    obtain ⟨rfl, -⟩ := List.cons.inj hdrop
    have hkind := hall _ (List.mem_append_right _ List.mem_cons_self)
    exact absurd hkind (by decide)

end Grammar

end Descent
