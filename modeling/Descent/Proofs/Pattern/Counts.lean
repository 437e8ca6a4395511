import Descent.Pattern.Reader
import Descent.Proofs.Pattern.Meaning

/-!
# The counts of a pattern that is read are in order

The reader refuses counts that ask for more at least than at most. So whatever it puts together has
its counts in order (`Ast.counted_of_read`). What a step of reading gives can be said without the
place it has reached (`Reader.Gives`).
-/

namespace Descent.Pattern

namespace Reader

variable {α β : Type} {m : Reader α} {f : α → Reader β} {P : β → Prop} {Q : α → Prop}

/-- Whatever the step gives has the property. -/
def Gives (m : Reader α) (Q : α → Prop) : Prop :=
  ∀ s a s', m.run s = .ok (a, s') → Q a

/-- What the second step gives has the property for whatever the first one may give. -/
theorem Gives.bind (hm : Gives m Q) (hf : ∀ a, Q a → Gives (f a) P) : Gives (m >>= f) P := by
  intro s b s' h
  obtain ⟨⟨a, s₁⟩, ha, hb⟩ := bind_eq_ok_iff.1 h
  exact hf a (hm s a s₁ ha) s₁ b s' hb

/-- It does not matter what the first step gives if the second one has the property for all of
it. -/
theorem gives_bind (hf : ∀ a, Gives (f a) P) : Gives (m >>= f) P :=
  Gives.bind (Q := fun _ => True) (fun _ _ _ _ => trivial) fun a _ => hf a

theorem gives_pure {a : α} (h : Q a) : Gives (pure a : Reader α) Q := by
  intro s b s' hb
  obtain ⟨rfl, -⟩ := Prod.mk.inj (Except.ok.inj hb)
  exact h

theorem gives_fail {cause : Cause} {span : Span} : Gives (fail cause span : Reader α) Q := nofun

theorem gives_fail_bind {cause : Cause} {span : Span} :
    Gives (fail cause span >>= f) P :=
  gives_fail.bind (Q := fun _ => False) fun _ h => h.elim

/-! ## Parts without parts -/

/-- An escape has no counts. -/
theorem gives_escape : Gives escape Ast.Counted := by
  unfold escape
  repeat' first
    | exact gives_fail
    | exact gives_pure trivial
    | refine gives_bind fun _ => ?_
    | split

/-- A part of a single character has no counts. -/
theorem gives_atom (c : Char) : Gives (atom c) Ast.Counted := by
  unfold atom
  refine gives_bind fun span => ?_
  split
  · exact gives_escape
  all_goals exact gives_bind fun _ => gives_pure trivial

/-! ## Repetitions -/

variable {items : List Ast}

/-- The part that is repeated and those that are left are in order if all that were read are. -/
theorem gives_repeated (h : ∀ a ∈ items, a.Counted) :
    Gives (repeated items) fun r => r.1.Counted ∧ ∀ a ∈ r.2, a.Counted := by
  unfold repeated
  split
  · exact gives_bind fun _ => gives_fail
  · exact gives_bind fun _ => gives_fail
  · exact gives_bind fun _ => gives_fail
  · exact gives_pure (List.forall_mem_cons.1 h)

/-- A repetition by a sign is in order if the counts of the sign are. -/
theorem gives_signRepetition {min : Nat} {max : Option Nat} (hcount : ∀ m ∈ max, min ≤ m)
    (h : ∀ a ∈ items, a.Counted) :
    Gives (signRepetition min max items) fun items => ∀ a ∈ items, a.Counted := by
  unfold signRepetition
  refine (gives_repeated h).bind fun (item, items) hitems => ?_
  refine gives_bind fun _ => gives_bind fun lazy => gives_bind fun stop => gives_pure ?_
  exact List.forall_mem_cons.2 ⟨⟨hcount, hitems.1⟩, hitems.2⟩

/-- A repetition with counts is in order, for it is refused if they are not. -/
theorem gives_countedRepetition (h : ∀ a ∈ items, a.Counted) :
    Gives (countedRepetition items) fun items => ∀ a ∈ items, a.Counted := by
  unfold countedRepetition
  refine gives_bind fun start => (gives_repeated h).bind fun (item, items) hitems => ?_
  refine gives_bind fun more => ?_
  dsimp only
  split
  · exact gives_bind fun _ => gives_fail_bind
  refine gives_bind fun (min, max) => gives_bind fun next => ?_
  split
  · exact gives_bind fun _ => gives_fail_bind
  refine gives_bind fun _ => gives_bind fun lazy => ?_
  split
  · exact gives_bind fun _ => gives_fail_bind
  · rename_i hcount
    refine gives_bind fun stop => gives_pure (List.forall_mem_cons.2 ⟨⟨?_, hitems.1⟩, hitems.2⟩)
    intro m hm
    obtain rfl : max = some m := hm
    simpa using hcount

/-! ## Whole patterns -/

theorem partsCounted_iff {subs : List Ast} : PartsCounted subs ↔ ∀ a ∈ subs, a.Counted := by
  induction subs with
  | nil => exact iff_of_true trivial nofun
  | cons a subs ih => rw [PartsCounted, ih, List.forall_mem_cons]

/-- The counts of parts in a row are those of the parts. -/
theorem counted_concat (span : Span) (h : ∀ a ∈ items, a.Counted) :
    (concat span items).Counted := by
  fun_cases concat span items with
  | case1 => trivial
  | case2 item => exact List.forall_mem_singleton.1 h
  | case3 => exact partsCounted_iff.2 fun a ha => h a (List.mem_reverse.1 ha)

/-- The counts of alternatives are those of the parts. -/
theorem counted_alternation (span : Span) (h : ∀ a ∈ items, a.Counted) :
    (alternation span items).Counted := by
  fun_cases alternation span items with
  | case1 => trivial
  | case2 item => exact List.forall_mem_singleton.1 h
  | case3 => exact partsCounted_iff.2 fun a ha => h a (List.mem_reverse.1 ha)

/-- The counts of what is put together are in order if those of the parts that were read are. -/
theorem gives_branches (fuel : Nat) (first start : Position) {ended : List Ast}
    (hended : ∀ a ∈ ended, a.Counted) (h : ∀ a ∈ items, a.Counted) :
    Gives (branches fuel first ended start items) Ast.Counted := by
  induction fuel generalizing first start ended items with
  | zero => exact gives_pure trivial
  | succ n ih =>
    have hnil : ∀ a ∈ ([] : List Ast), a.Counted := List.forall_mem_nil _
    have hnone (min : Nat) : ∀ m ∈ (none : Option Nat), min ≤ m :=
      fun m hm => absurd hm (Option.not_mem_none m)
    have hmore {a : Ast} (ha : a.Counted) :
        Gives (branches n first ended start (a :: items)) Ast.Counted :=
      ih first start hended (List.forall_mem_cons.2 ⟨ha, h⟩)
    have hend (span span' : Span) : (alternation span (concat span' items :: ended)).Counted :=
      counted_alternation span (List.forall_mem_cons.2 ⟨counted_concat span' h, hended⟩)
    unfold branches
    refine gives_bind fun _ => gives_bind fun next => ?_
    split
    · exact gives_bind fun _ => gives_pure (hend _ _)
    · exact gives_bind fun _ => gives_pure (hend _ _)
    · refine gives_bind fun _ => gives_bind fun _ => gives_bind fun _ => ?_
      exact ih _ _ (List.forall_mem_cons.2 ⟨counted_concat _ h, hended⟩) hnil
    · refine gives_bind fun paren => gives_bind fun opened => ?_
      split
      · -- flags that are set have no counts
        extract_lets goOn
        have hgoOn (u : Unit) : Gives (goOn u) Ast.Counted := gives_bind fun _ => hmore trivial
        split
        · exact gives_bind hgoOn
        · exact hgoOn ()
      · -- a group is read with the steps that are left, and then what follows it
        refine gives_bind fun s => ?_
        extract_lets outside goOn
        have hgoOn (u : Unit) : Gives (goOn u) Ast.Counted := by
          refine gives_bind fun inside => (ih inside inside hnil hnil).bind fun sub hsub => ?_
          refine gives_bind fun unclosed => ?_
          split
          · exact gives_fail_bind
          · exact gives_bind fun _ => gives_bind fun _ => gives_bind fun _ => hmore hsub
        split
        · split
          · exact gives_bind hgoOn
          · exact hgoOn ()
        · exact hgoOn ()
    · exact gives_bind fun _ => gives_bind fun _ => hmore trivial
    · refine (gives_signRepetition ?_ h).bind fun items hitems => ih _ _ hended hitems
      exact fun _ _ => Nat.zero_le _
    · refine (gives_signRepetition (hnone _) h).bind fun items hitems => ih _ _ hended hitems
    · refine (gives_signRepetition (hnone _) h).bind fun items hitems => ih _ _ hended hitems
    · exact (gives_countedRepetition h).bind fun items hitems => ih _ _ hended hitems
    · exact (gives_atom _).bind fun a ha => hmore ha

/-- **The counts of a whole pattern are in order.** -/
theorem gives_whole : Gives whole Ast.Counted := by
  unfold whole
  refine gives_bind fun start => gives_bind fun fuel => ?_
  have hnil : ∀ a ∈ ([] : List Ast), a.Counted := List.forall_mem_nil _
  refine (gives_branches fuel start start hnil hnil).bind fun ast hast => gives_bind fun _ => ?_
  split
  · exact gives_pure hast
  · exact gives_bind fun _ => gives_fail

end Reader

/-- **The counts of a pattern that is read are in order.** -/
theorem Ast.counted_of_read {pattern : List Char} {ast : Ast} (h : Ast.read pattern = .ok ast) :
    ast.Counted := by
  obtain ⟨⟨a, s⟩, hwhole, h⟩ := bind_eq_ok_iff.1 h
  obtain ⟨-, -, h⟩ := bind_eq_ok_iff.1 h
  exact Except.ok.inj h ▸ Reader.gives_whole _ a s hwhole

end Descent.Pattern
