import Descent.Json.Reader
import Mathlib.Data.List.Basic

/-!
# What a reader reads

A reader of documents does much that matters only if it fails: it knows its place, and whether it
has looked at the next symbol. When it succeeds, what matters is what it yields and where it stops.
`Reader.Reads r input a rest` says that in front of the characters `input` the reader `r` yields `a`
and stops in front of `rest`, wherever in the document that may be.

One reader after another reads one text after another (`Reads.bind`). With one lemma for each of the
readers that all others are made of, what a reader reads is told without looking at how it does so.
-/

namespace Descent.Json.Reader

variable {α β : Type}

/-- In front of the characters `input` the reader yields `a` and stops in front of `rest`. -/
def Reads (r : Reader α) (input : List Char) (a : α) (rest : List Char) : Prop :=
  ∀ i : Input, i.rest = input.map .char → ∃ i', r.run i = (.ok a, i') ∧ i'.rest = rest.map .char

variable {input rest rest' : List Char} {c : Char}

/-! ## One reader after another -/

theorem reads_pure (a : α) : Reads (pure a) input a input := fun i h => ⟨i, rfl, h⟩

/-- If a reader succeeds, what comes behind it is run on what is left. -/
theorem run_bind_of_ok {r : Reader α} {f : α → Reader β} {i i' : Input} {a : α}
    (h : r.run i = (.ok a, i')) : (r >>= f).run i = (f a).run i' := by
  change ExceptT.bindCont f (r.run i).1 (r.run i).2 = _
  rw [h]
  rfl

/-- The second reader begins where the first one stops. -/
theorem Reads.bind {r : Reader α} {f : α → Reader β} {a : α} {b : β} (hr : Reads r input a rest)
    (hf : Reads (f a) rest b rest') : Reads (r >>= f) input b rest' := by
  intro i hi
  obtain ⟨i₁, hrun, hi₁⟩ := hr i hi
  obtain ⟨i', hrun', hi'⟩ := hf i₁ hi₁
  exact ⟨i', (run_bind_of_ok hrun).trans hrun', hi'⟩

/-- The reader stops at the same place if its value is not wanted. -/
theorem Reads.discard {r : Reader α} {a : α} (hr : Reads r input a rest) :
    Reads (discard r) input () rest := by
  have h : Functor.discard r = r >>= fun _ => pure () := by
    rw [bind_pure_comp]
    rfl
  rw [h]
  exact hr.bind (reads_pure ())

/-- The outcome of a reader that succeeds is its value. -/
theorem Reads.outcome {r : Reader α} {a : α} (hr : Reads r input a rest) :
    Reads (outcome r) input (.ok a) rest := by
  intro i hi
  obtain ⟨i', hrun, hi'⟩ := hr i hi
  refine ⟨i', ?_, hi'⟩
  change (Except.ok (r.run i).1, (r.run i).2) = _
  rw [hrun]

/-- Where nothing fails, no error has to be put to a place. -/
theorem Reads.placed {r : Reader α} {a : α} (hr : Reads r input a rest) :
    Reads (placed r) input a rest :=
  hr.outcome.bind (reads_pure a)

/-- What stands between two marks is read, and then the closing mark. -/
theorem Reads.enclosed {body : Reader α} {close : Reader Unit} {a : α}
    (hbody : Reads body input a rest) (hclose : Reads close rest () rest') :
    Reads (enclosed body close) input a rest' :=
  hbody.outcome.bind <| hclose.outcome.bind <| (reads_pure a).bind <| (reads_pure ()).bind <|
    reads_pure a

/-! ## Symbols -/

/-- The fuel is more than twice the number of characters that are left. -/
theorem reads_budget : Reads budget input (2 * input.length + 2) input := by
  intro i hi
  refine ⟨i, ?_, hi⟩
  rw [← List.length_map Text.Symbol.char, ← hi]
  rfl

/-- To look at the next character does not read it. -/
theorem reads_peek? : Reads peek? input input.head? input := by
  intro i hi
  obtain ⟨medium, symbols, place, peeked⟩ := i
  obtain rfl : symbols = _ := hi
  cases input with
  | nil => exact ⟨_, rfl, rfl⟩
  | cons c input => exact ⟨_, rfl, rfl⟩

/-- The next character is read, whatever it is. -/
theorem reads_eat : Reads eat (c :: input) () input := by
  intro i hi
  refine ⟨i.eat, rfl, ?_⟩
  rw [Input.eat, hi]
  rfl

/-- The next character is read if it is one of those that may stand there. -/
theorem reads_required {missing wrong : Cause} {test : Char → Bool} (h : test c = true) :
    Reads (required missing wrong test) (c :: input) c input := by
  refine reads_peek?.bind ?_
  simp only [List.head?_cons, h, if_true]
  exact reads_eat.bind (reads_pure c)

/-- What is left is the same without its first symbol. -/
theorem rest_eat (i : Input) : i.eat.rest = i.rest.tail := by
  rw [Input.eat]
  cases h : i.rest with
  | nil => rw [h, List.tail_nil]
  | cons s rest => rfl

theorem rest_skip (n : Nat) (i : Input) : (i.skip n).rest = i.rest.drop n := by
  induction n generalizing i with
  | zero => rfl
  | succ n ih => rw [Input.skip, ih, rest_eat, List.drop_tail]

/-- The symbols that pass a test are counted up to the first character that does not. -/
theorem count_eq {test : Char → Bool} {i : Input} (hi : i.rest = input.map .char) :
    i.count test = (input.takeWhile test).length := by
  rw [Input.count, hi, List.takeWhile_map, List.length_map]
  rfl

/-- To drop the characters in front that pass a test is to drop as many as there are. -/
theorem drop_length_takeWhile (test : Char → Bool) (cs : List Char) :
    cs.drop (cs.takeWhile test).length = cs.dropWhile test := calc
  cs.drop (cs.takeWhile test).length =
      (cs.takeWhile test ++ cs.dropWhile test).drop (cs.takeWhile test).length := by
    rw [List.takeWhile_append_dropWhile]
  _ = cs.dropWhile test := List.drop_left

/-- Characters are skipped up to the first that does not pass the test. -/
theorem reads_skipWhile (test : Char → Bool) :
    Reads (skipWhile test) input (input.takeWhile test).length (input.dropWhile test) := by
  intro i hi
  have hrest : (i.skip (i.count test)).rest = (input.dropWhile test).map .char := by
    rw [rest_skip, count_eq hi, hi, ← List.map_drop, drop_length_takeWhile]
  obtain ⟨i', hpeek, hi'⟩ := reads_peek?.discard _ hrest
  refine ⟨i', ?_, hi'⟩
  rw [← count_eq hi]
  exact run_bind_of_ok hpeek

/-- White space is skipped up to the next character, which is not read yet. -/
theorem reads_token? :
    Reads token? input (input.dropWhile isSpace).head? (input.dropWhile isSpace) :=
  (reads_skipWhile isSpace).discard.bind reads_peek?

/-- If there is no white space then none is skipped. -/
theorem reads_token?_cons (h : isSpace c = false) :
    Reads token? (c :: input) (some c) (c :: input) := by
  have hdrop : (c :: input).dropWhile isSpace = c :: input :=
    List.dropWhile_cons_of_neg (by rw [h]; decide)
  have htoken := @reads_token? (c :: input)
  rwa [hdrop] at htoken

/-- The letters of a word are read one after the other. -/
theorem reads_ident (letters : String) :
    Reads (ident letters) (letters.toList ++ input) () input := by
  unfold ident
  induction letters.toList with
  | nil => exact reads_pure ()
  | cons c letters ih =>
    have hc : Reads (required .endInValue .expectedIdent (· == c)) (c :: (letters ++ input)) c
        (letters ++ input) := reads_required (beq_self_eq_true c)
    exact hc.discard.bind ih

end Descent.Json.Reader
