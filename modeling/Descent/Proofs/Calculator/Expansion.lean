import Descent.Proofs.Calculator.Completeness

/-!
# Names are replaced as if by hand

To put what names stand for in their place, nobody needs to calculate (`Calculator.Flattens`): each
name is replaced by its tokens, in which the names are replaced likewise, and all other tokens stay
where they are. The calculator replaces a name only when it comes to it, in the middle of a
calculation. Nevertheless, if a text has a value then its tokens can be flattened, and the flat
tokens have the same value without aliases (`Calculator.exists_flattens_of_exec_evaluate`).

The two differ in that the calculator reads the tokens of a name together with those behind it, as
one stream, where flattening does one after the other. That is what `Reads.flattens` is about.
-/

namespace Descent.Calculator

variable {c : Calculator}

/-- With all names replaced, some tokens become others. -/
inductive Flattens (c : Calculator) : List (Token Kind) → List (Token Kind) → Prop where
  /-- there is nothing to replace -/
  | nil : Flattens c [] []
  /-- what is not a name stays -/
  | keep {t : Token Kind} {ts us : List (Token Kind)} (ht : t.kind ≠ .ident)
      (h : Flattens c ts us) : Flattens c (t :: ts) (t :: us)
  /-- a name is replaced by what it stands for, with the names in that replaced -/
  | replace {t : Token Kind} {es vs ts us : List (Token Kind)} (ht : t.kind = .ident)
      (hes : c.replacement? t = some es) (hvs : Flattens c es vs) (h : Flattens c ts us) :
      Flattens c (t :: ts) (vs ++ us)

namespace Flattens

variable {t : Token Kind} {ts ts' us us' : List (Token Kind)}

/-- Tokens can be flattened in one way only. -/
theorem unique (h : Flattens c ts us) (h' : Flattens c ts us') : us = us' := by
  induction h generalizing us' with
  | nil =>
    cases h'
    rfl
  | keep ht _ ih =>
    cases h' with
    | keep _ h' => rw [ih h']
    | replace ht' => exact absurd ht' ht
  | replace ht hes _ _ ihes ih =>
    cases h' with
    | keep ht' => exact absurd ht ht'
    | replace _ hes' hvs' h' =>
      obtain rfl := Option.some.inj (hes.symm.trans hes')
      rw [ihes hvs', ih h']

/-- There is no name in what is flat. -/
theorem kind_ne_ident (h : Flattens c ts us) : ∀ t ∈ us, t.kind ≠ .ident := by
  induction h with
  | nil => nofun
  | keep ht _ ih => exact List.forall_mem_cons.2 ⟨ht, ih⟩
  | replace _ _ _ _ ihes ih => exact List.forall_mem_append.2 ⟨ihes, ih⟩

/-- What can be flattened together can be flattened one after the other. -/
theorem exists_of_append (h : Flattens c (ts ++ ts') us) :
    ∃ vs ws, us = vs ++ ws ∧ Flattens c ts vs ∧ Flattens c ts' ws := by
  induction ts generalizing us with
  | nil => exact ⟨[], us, rfl, .nil, h⟩
  | cons t ts ih =>
    cases h with
    | keep ht h =>
      obtain ⟨vs, ws, rfl, hvs, hws⟩ := ih h
      exact ⟨t :: vs, ws, rfl, .keep ht hvs, hws⟩
    | replace ht hes hxs h =>
      obtain ⟨vs, ws, rfl, hvs, hws⟩ := ih h
      exact ⟨_ ++ vs, ws, (List.append_assoc _ _ _).symm, .replace ht hes hxs hvs, hws⟩

end Flattens

/-- What the calculator reads up to the end is what was there, with the names replaced. -/
theorem Reads.flattens {x y : Reading Kind × Nat} {us : List (Token Kind)} (h : Reads c x us y)
    (hend : y.1.stream = []) : Flattens c x.1.stream us := by
  induction h with
  | stay x =>
    rw [hend]
    exact .nil
  | take ht _ ih => exact .keep ht (ih hend)
  | replace ht hes _ ih =>
    -- the tokens of the name and those behind it have been flattened together
    obtain ⟨vs, ws, rfl, hvs, hws⟩ := (ih hend).exists_of_append
    exact .replace ht hes hvs hws

/-- **Aliases are substitution.** If a text has a value, then all names in its tokens can be
replaced, in one way, until none is left. What was read on the way to the value are the tokens that
remain, in their order. In front of them, wherever they come from, the calculator without aliases
has the same value. -/
theorem exists_flattens_of_exec_evaluate (c : Calculator) (s : Parser Kind × Nat) (text : String)
    (v : Int) (h : ((c.evaluate text).exec s).1 = .ok v) :
    ∃ ts us, s.1.lexer.lex text = .ok ts ∧ Flattens c ts us ∧
      (∀ us', Flattens c ts us' → us' = us) ∧ (∀ t ∈ us, t.kind ≠ .ident) ∧
      (let s' := ((c.evaluate text).exec s).2
       s'.1.cursor.stream = [] ∧
         Reads c (⟨text, none, ts⟩, s.2) us (s'.1.cursor.reading, s'.2)) ∧
      ∀ (p : Parser Kind) (text' : String) (last : Option (Token Kind)) (m : Nat),
        (empty.whole.exec (p.move (Reading.cursor ⟨text', last, us⟩), m)).1 = .ok v := by
  cases hlex : s.1.lexer.lex text with
  | error d =>
    rw [evaluate, Grammar.exec_parse_of_error hlex] at h
    cases h
  | ok ts =>
    rw [evaluate, Grammar.exec_parse_of_ok hlex] at h ⊢
    generalize hrun : c.whole.exec ((s.1.enter text).push ts, s.2) = run at h ⊢
    obtain ⟨result, s'⟩ := run
    obtain rfl : result = .ok v := h
    obtain ⟨hat, us, hus, d, hd⟩ := reaches_of_whole (Cursor.primed_push _ _) hrun
    have hreads := hus.reads
    rw [Parser.reading_push_enter] at hreads
    have hflat : Flattens c ts us := hreads.flattens hat.stream_eq
    refine ⟨ts, us, rfl, hflat, fun us' h' => h'.unique hflat, hflat.kind_ne_ident,
      ⟨hat.stream_eq, hreads⟩, fun p text' last m => ?_⟩
    obtain ⟨s₁, hyield⟩ :=
      yield?_whole_empty d (s := (p.move _, m)) (p.at_move_cursor ⟨text', last, us⟩)
    rw [hd] at hyield
    exact congrArg Prod.fst (Grammar.yield?_eq_some_iff.1 hyield)

/-- A name between operators: twice `1 + 1`, written without parentheses, is three. -/
theorem exists_flattens_of_twice_two :
    let c := empty.withAlias "two" [(.number, "1"), (.plus, "+"), (.number, "1")]
    ((c.evaluate "2*two").exec (.new lexer, 0)).1 = .ok 3 ∧
      ∃ ts us, lexer.lex "2*two" = .ok ts ∧ Flattens c ts us ∧
        (empty.whole.exec
          ((Parser.new lexer).move (Reading.cursor ⟨"", none, us⟩), 0)).1 = .ok 3 := by
  intro c
  have h : ((c.evaluate "2*two").exec (.new lexer, 0)).1 = .ok 3 := by decide +kernel
  obtain ⟨ts, us, hlex, hflat, -, -, -, hvalue⟩ :=
    exists_flattens_of_exec_evaluate c (.new lexer, 0) "2*two" 3 h
  rw [Parser.lexer_new] at hlex
  exact ⟨h, ts, us, hlex, hflat, hvalue (.new lexer) "" none 0⟩

end Descent.Calculator
