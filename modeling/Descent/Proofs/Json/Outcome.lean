import Descent.Proofs.Json.Reading

/-!
# What a reader comes to

A reader that fails has an error, and for what a document means it does not matter which. So there
are two ways for a reader to end in front of some characters: it reads a value and stops in front of
what is left, or it fails (`Reader.Fails`). `Reader.Yields r input o rest` says which: if `o` is a
value, that value is read, and if it is none, the reader fails.

Errors are never lost on the way: a reader that reads on with the outcome of another one, in order
to read what stands behind, or to put an error to its place, fails in the end if the other one does.
-/

namespace Descent.Json.Reader

variable {α β : Type} {r : Reader α} {f : α → Reader β} {input rest rest' : List Char}

/-- The reader fails, wherever it stands. -/
def Refuses (r : Reader α) : Prop := ∀ i : Input, ∃ e i', r.run i = (.error e, i')

/-- In front of the characters `input` the reader fails. -/
def Fails (r : Reader α) (input : List Char) : Prop :=
  ∀ i : Input, i.rest = input.map .char → ∃ e i', r.run i = (.error e, i')

/-- In front of the characters `input` the reader yields what there is and stops in front of `rest`,
or it fails. -/
def Yields (r : Reader α) (input : List Char) : Option α → List Char → Prop
  | some a, rest => Reads r input a rest
  | none, _ => Fails r input

/-! ## Readers that always fail -/

/-- A reader that always fails does so in front of any characters. -/
theorem Refuses.fails (h : Refuses r) (input : List Char) : Fails r input := fun i _ => h i

/-- If a reader fails then what comes behind it is not run. -/
theorem run_bind_of_error {i i' : Input} {e : Error} (h : r.run i = (.error e, i')) :
    (r >>= f).run i = (.error e, i') := by
  change ExceptT.bindCont f (r.run i).1 (r.run i).2 = _
  rw [h]
  rfl

theorem refuses_throw (e : Error) : Refuses (throw e : Reader α) := fun i => ⟨e, i, rfl⟩

theorem refuses_refuse (cause : Cause) : Refuses (refuse cause : Reader α) :=
  refuses_throw ⟨cause, none⟩

/-- What comes behind a reader that always fails is of no use. -/
theorem Refuses.bind (h : Refuses r) : Refuses (r >>= f) := by
  intro i
  obtain ⟨e, i', hrun⟩ := h i
  exact ⟨e, i', run_bind_of_error hrun⟩

/-- What comes before a reader that always fails is of no use. -/
theorem refuses_bind (h : ∀ a, Refuses (f a)) : Refuses (r >>= f) := by
  intro i
  rcases hrun : r.run i with ⟨result, i₁⟩
  cases result with
  | error e => exact ⟨e, i₁, run_bind_of_error hrun⟩
  | ok a =>
    obtain ⟨e, i', hf⟩ := h a i₁
    exact ⟨e, i', (run_bind_of_ok hrun).trans hf⟩

theorem refuses_failHere (cause : Cause) : Refuses (failHere cause : Reader α) :=
  refuses_bind fun _ => refuses_throw _

theorem refuses_failNext (cause : Cause) : Refuses (failNext cause : Reader α) :=
  refuses_bind fun _ => refuses_throw _

/-! ## One reader after another -/

/-- If the first reader fails, so do both. -/
theorem Fails.bind (h : Fails r input) : Fails (r >>= f) input := by
  intro i hi
  obtain ⟨e, i', hrun⟩ := h i hi
  exact ⟨e, i', run_bind_of_error hrun⟩

/-- If the second reader fails where the first one stops, so do both. -/
theorem Reads.fails {a : α} (h : Reads r input a rest) (hf : Fails (f a) rest) :
    Fails (r >>= f) input := by
  intro i hi
  obtain ⟨i₁, hrun, hi₁⟩ := h i hi
  obtain ⟨e, i', hrun'⟩ := hf i₁ hi₁
  exact ⟨e, i', (run_bind_of_ok hrun).trans hrun'⟩

/-- A value is read, and then all is as if the second reader had begun there. -/
theorem Reads.yields {a : α} {o : Option β} (h : Reads r input a rest)
    (hf : Yields (f a) rest o rest') : Yields (r >>= f) input o rest' := by
  cases o with
  | none => exact h.fails hf
  | some b => exact Reads.bind h hf

/-- The second reader begins where the first one stops, and there is nothing without either of
them. -/
theorem Yields.bind {o : Option α} {g : α → Option β} (h : Yields r input o rest)
    (hf : ∀ a, o = some a → Yields (f a) rest (g a) rest') :
    Yields (r >>= f) input (o.bind g) rest' := by
  cases o with
  | none => exact Fails.bind h
  | some a => exact Reads.yields h (hf a rfl)

/-- What is made of a value makes no difference to where the reader stops. -/
theorem Yields.map {o : Option α} {g : α → β} (h : Yields r input o rest) :
    Yields (do return g (← r)) input (o.map g) rest := by
  cases o with
  | none => exact Fails.bind h
  | some a => exact Reads.bind h (reads_pure (g a))

/-! ## Reading on with an outcome -/

/-- The outcome of a reader that fails is an error, and reading goes on. -/
theorem Fails.run_outcome (h : Fails r input) {i : Input} (hi : i.rest = input.map .char) :
    ∃ e i', (outcome r).run i = (.ok (.error e), i') := by
  obtain ⟨e, i', hrun⟩ := h i hi
  refine ⟨e, i', ?_⟩
  change (Except.ok (r.run i).1, (r.run i).2) = _
  rw [hrun]

/-- An error that is put to its place is still an error. -/
theorem Fails.placed (h : Fails r input) : Fails (placed r) input := by
  intro i hi
  obtain ⟨⟨cause, place⟩, i₁, hrun⟩ := h.run_outcome hi
  rw [Reader.placed, run_bind_of_ok hrun]
  cases place with
  | none => exact refuses_failHere cause i₁
  | some p => exact refuses_throw _ i₁

/-- What stands between two marks is refused if the reader for it fails, whatever the closing
mark. -/
theorem Fails.enclosed {close : Reader Unit} (h : Fails r input) :
    Fails (enclosed r close) input := by
  intro i hi
  obtain ⟨e, i₁, hrun⟩ := h.run_outcome hi
  rw [Reader.enclosed, run_bind_of_ok hrun]
  exact refuses_bind (fun _ => (refuses_throw e).bind) i₁

/-- What stands between two marks is refused if the closing mark is. -/
theorem Reads.enclosed_fails {close : Reader Unit} {a : α} (h : Reads r input a rest)
    (hclose : Fails close rest) : Fails (Reader.enclosed r close) input := by
  refine h.outcome.fails fun i hi => ?_
  obtain ⟨e, i₁, hrun⟩ := hclose.run_outcome hi
  rw [run_bind_of_ok hrun]
  exact ⟨e, i₁, rfl⟩

/-- To put errors to their place makes no difference to what is read. -/
theorem Yields.placed {o : Option α} (h : Yields r input o rest) :
    Yields (placed r) input o rest := by
  cases o with
  | none => exact Fails.placed h
  | some a => exact Reads.placed h

/-- What stands between two marks is read if the closing mark is there. -/
theorem Yields.enclosed {o : Option α} {close : Reader Unit} (h : Yields r input o rest)
    (hclose : Reads close rest () rest') : Yields (enclosed r close) input o rest' := by
  cases o with
  | none => exact Fails.enclosed h
  | some a => exact Reads.enclosed h hclose

end Descent.Json.Reader
