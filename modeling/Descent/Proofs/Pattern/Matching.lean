import Descent.Proofs.Pattern.Language
import Mathlib.Data.List.Induction
import Mathlib.Data.List.TakeWhile

/-!
# The matcher finds what can be matched

The matcher keeps a front of stacks instead of one, and it never opens the same stack twice at one
place. Neither costs it anything: where an expression can match, the matcher finds a match, and what
it finds can be matched (`Expr.exists_preferred?`, `Expr.language_of_preferred?`).

What a stack of expressions matches is reached in small steps (`Leads`): a step of opening does not
move, and a stack that is ready reads a character. Between two characters the matcher closes a set
of stacks under the steps of opening. While it does so, the set is closed but for the stacks that
were met before it began (`Grows`), and what it still has to open is only put off. Behind each leaf
the front then holds all that the stacks before it can come to.
-/

namespace Descent.Pattern

open Text (Place)

/-! ## Small steps -/

/-- A step that opens a stack. -/
inductive Step (p : Place) : Stack → Stack → Prop where
  | empty {s : Stack} : Step p (.empty :: s) s
  | look {l : Look} {s : Stack} (h : l.holds p = true) : Step p (.look l :: s) s
  | seq {a b : Expr} {s : Stack} : Step p (.seq a b :: s) (a :: b :: s)
  | altFirst {a b : Expr} {s : Stack} : Step p (.alt a b :: s) (a :: s)
  | altRest {a b : Expr} {s : Stack} : Step p (.alt a b :: s) (b :: s)
  | starStop {g : Bool} {e : Expr} {s : Stack} : Step p (.star g e :: s) s
  | starMore {g : Bool} {e : Expr} {s : Stack} : Step p (.star g e :: s) (e :: .star g e :: s)
  | plus {g : Bool} {e : Expr} {s : Stack} : Step p (.plus g e :: s) (e :: .star g e :: s)
  | exactlyStop {e : Expr} {s : Stack} : Step p (.exactly 0 e :: s) s
  | exactlyMore {n : Nat} {e : Expr} {s : Stack} :
      Step p (.exactly (n + 1) e :: s) (e :: .exactly n e :: s)
  | upToStop {g : Bool} {n : Nat} {e : Expr} {s : Stack} : Step p (.upTo g n e :: s) s
  | upToMore {g : Bool} {n : Nat} {e : Expr} {s : Stack} :
      Step p (.upTo g (n + 1) e :: s) (e :: .upTo g n e :: s)

/-- A stack leads from one place to another. -/
inductive Leads (sites : Sites) : Stack → Place → Place → Prop where
  | done (p : Place) : Leads sites [] p p
  | read {site : Nat} {s : Stack} {prev : Option Char} {c : Char} {rest : List Char} {q : Place}
      (hc : sites.reads site c = true) (h : Leads sites s ⟨some c, rest⟩ q) :
      Leads sites (.leaf site :: s) ⟨prev, c :: rest⟩ q
  | open {s t : Stack} {p q : Place} (hstep : Step p s t) (h : Leads sites t p q) :
      Leads sites s p q

/-- What a stack matches: its expressions, one after the other. -/
def Stack.language (sites : Sites) : Stack → Language
  | [] => .unit
  | e :: s => (e.language sites).seq (Stack.language sites s)

variable {sites : Sites} {p q r : Place} {s t : Stack} {e : Expr}

section Language

open Pattern.Language

/-- Any number of times is not at all, or once and then any number of times. -/
theorem Expr.language_star (g : Bool) (e : Expr) :
    (star g e).language sites = unit.alt ((e.language sites).seq ((star g e).language sites)) :=
  upTo_succ none (e.language sites)

/-- Up to a number of times is not at all, or once and then up to one time less. -/
theorem Expr.language_upTo (g : Bool) (n : Nat) (e : Expr) :
    (upTo g (n + 1) e).language sites =
      unit.alt ((e.language sites).seq ((upTo g n e).language sites)) :=
  upTo_succ (some n) (e.language sites)

/-- What a stack matches when it is opened, it matches before. -/
theorem Step.language_of (h : Step p s t) (ht : Stack.language sites t p q) :
    Stack.language sites s p q := by
  cases h with
  | empty => exact ⟨p, rfl, ht⟩
  | look hl => exact ⟨p, ⟨hl, rfl⟩, ht⟩
  | @seq a b s =>
    change ((a.language sites).seq (b.language sites)).seq (Stack.language sites s) p q
    rw [seq_assoc]
    exact ht
  | altFirst =>
    obtain ⟨r, ha, hs⟩ := ht
    exact ⟨r, .inl ha, hs⟩
  | altRest =>
    obtain ⟨r, hb, hs⟩ := ht
    exact ⟨r, .inr hb, hs⟩
  | starStop => exact ⟨p, upTo_self _ _ p, ht⟩
  | starMore =>
    rw [Stack.language, Stack.language, ← seq_assoc] at ht
    obtain ⟨r, he, hs⟩ := ht
    refine ⟨r, ?_, hs⟩
    rw [Expr.language_star]
    exact .inr he
  | plus =>
    rw [Stack.language, Expr.language, seq_assoc]
    exact ht
  | exactlyStop => exact ⟨p, rfl, ht⟩
  | exactlyMore =>
    rw [Stack.language, Expr.language, times, seq_assoc]
    exact ht
  | upToStop => exact ⟨p, upTo_self _ _ p, ht⟩
  | upToMore =>
    rw [Stack.language, Stack.language, ← seq_assoc] at ht
    obtain ⟨r, he, hs⟩ := ht
    refine ⟨r, ?_, hs⟩
    rw [Expr.language_upTo]
    exact .inr he

/-- Where small steps lead to, there the expressions match one after the other. -/
theorem Leads.language (h : Leads sites s p q) : Stack.language sites s p q := by
  induction h with
  | done p => rfl
  | read hc _ ih => exact ⟨_, .read hc, ih⟩
  | «open» hstep _ ih => exact hstep.language_of ih

/-- The expression on a stack can be matched in small steps. -/
def Expr.Opens (sites : Sites) (e : Expr) : Prop :=
  ∀ {s : Stack} {p q r : Place}, e.language sites p q → Leads sites s q r → Leads sites (e :: s) p r

/-- By induction on how often the expression matches. -/
theorem Expr.Opens.star (he : e.Opens sites) (g : Bool) : (star g e).Opens sites := by
  rintro s p q r ⟨n, -, h⟩ hs
  induction n generalizing p with
  | zero =>
    obtain rfl : p = q := h
    exact .open .starStop hs
  | succ n ih =>
    obtain ⟨p', h, hmore⟩ := h
    exact .open .starMore (he h (ih hmore))

/-- One time after the other is opened until none is left. -/
theorem Expr.Opens.exactly (he : e.Opens sites) (n : Nat) : (exactly n e).Opens sites := by
  intro s p q r h hs
  induction n generalizing p with
  | zero =>
    obtain rfl : p = q := h
    exact .open .exactlyStop hs
  | succ n ih =>
    obtain ⟨p', h, hmore⟩ := h
    exact .open .exactlyMore (he h (ih hmore))

/-- By induction on how often the expression matches, which is no more than allowed. -/
theorem Expr.Opens.upTo (he : e.Opens sites) (g : Bool) (n : Nat) : (upTo g n e).Opens sites := by
  rintro s p q r ⟨k, hk, h⟩ hs
  replace hk := hk n rfl
  induction k generalizing n p with
  | zero =>
    obtain rfl : p = q := h
    exact .open .upToStop hs
  | succ k ih =>
    obtain ⟨p', h, hmore⟩ := h
    obtain ⟨n, rfl⟩ := Nat.exists_eq_add_one.2 (Nat.zero_lt_of_lt hk)
    exact .open .upToMore (he h (ih n hmore (Nat.le_of_succ_le_succ hk)))

/-- **Whatever an expression matches can be matched in small steps.** -/
theorem Expr.opens (e : Expr) : e.Opens sites := by
  induction e with
  | empty =>
    intro s p q r h hs
    obtain rfl : p = q := h
    exact .open .empty hs
  | leaf site =>
    rintro s p q r ⟨hc⟩ hs
    exact .read hc hs
  | look l =>
    rintro s p q r ⟨hl, rfl⟩ hs
    exact .open (.look hl) hs
  | seq a b iha ihb =>
    rintro s p q r ⟨p', ha, hb⟩ hs
    exact .open .seq (iha ha (ihb hb hs))
  | alt a b iha ihb =>
    rintro s p q r (ha | hb) hs
    · exact .open .altFirst (iha ha hs)
    · exact .open .altRest (ihb hb hs)
  | star g sub ih => exact ih.star g
  | plus g sub ih =>
    rintro s p q r ⟨p', h, hmore⟩ hs
    exact .open .plus (ih h (Expr.Opens.star ih g hmore hs))
  | exactly n sub ih => exact ih.exactly n
  | upTo g n sub ih => exact ih.upTo g n

/-- An expression alone on a stack leads from where to where its language does. -/
theorem leads_singleton_iff : Leads sites [e] p q ↔ e.language sites p q := by
  refine ⟨fun h => ?_, fun h => e.opens h (.done q)⟩
  obtain ⟨r, he, rfl⟩ := h.language
  exact he

end Language

/-! ## Opening -/

/-- The stack reads a character next, or nothing is left of it. -/
def IsReady : Stack → Prop
  | [] => True
  | .leaf _ :: _ => True
  | _ => False

/-- The stack that is met when an expression is opened over another one. -/
def Expr.onto : Expr → Stack → Stack
  | .seq a b, s => a.onto (b :: s)
  | e, s => e :: s

/-- The stack has been met. -/
def Covers (o : Opened) : Stack → Prop
  | [] => [] ∈ o.seen
  | e :: s => e.onto s ∈ o.seen

/-- More stacks have been opened, all of them for the sake of `s`. What has been met since is closed
under the steps of opening. -/
structure Grows (p : Place) (s : Stack) (o o' : Opened) : Prop where
  seen : ∀ t ∈ o.seen, t ∈ o'.seen
  ready : ∀ t ∈ o.ready, t ∈ o'.ready
  closed : ∀ t ∈ o'.seen, t ∈ o.seen ∨
    (∀ u, Step p t u → Covers o' u) ∧ (IsReady t → t ∈ o'.ready)
  sound : ∀ t ∈ o'.ready, t ∈ o.ready ∨
    IsReady t ∧ ∀ sites q, Leads sites t p q → Leads sites s p q

/-- The function opens the stack, given that the stacks `known` have been met. -/
def OpensStack (p : Place) (known : List Stack) (s : Stack) (f : Opened → Opened) : Prop :=
  ∀ o, (∀ k ∈ known, k ∈ o.seen) → Grows p s o (f o) ∧ Covers (f o) s

variable {o o' o₁ : Opened} {known : List Stack} {f go : Opened → Opened}

/-- What has been met stays met when more is met. -/
theorem Covers.mono (h : Covers o s) (hseen : ∀ t ∈ o.seen, t ∈ o'.seen) : Covers o' s := by
  cases s with
  | nil => exact hseen _ h
  | cons e s => exact hseen _ h

theorem Grows.refl (p : Place) (s : Stack) (o : Opened) : Grows p s o o :=
  ⟨fun _ h => h, fun _ h => h, fun _ => .inl, fun _ => .inl⟩

/-- What is opened in two turns is opened for the sake of the same stack. -/
theorem Grows.trans (h : Grows p s o o₁) (h' : Grows p s o₁ o') : Grows p s o o' where
  seen t ht := h'.seen t (h.seen t ht)
  ready t ht := h'.ready t (h.ready t ht)
  closed t ht := by
    obtain ht | hnew := h'.closed t ht
    · refine (h.closed t ht).imp_right fun ⟨hsteps, hready⟩ => ?_
      exact ⟨fun u hu => (hsteps u hu).mono h'.seen, fun hr => h'.ready t (hready hr)⟩
    · exact .inr hnew
  sound t ht := by
    obtain ht | hnew := h'.sound t ht
    · exact h.sound t ht
    · exact .inr hnew

/-- What is opened for the sake of a stack is opened for the sake of those that step to it. -/
theorem Grows.of_step (h : Grows p t o o') (hstep : Step p s t) : Grows p s o o' where
  seen := h.seen
  ready := h.ready
  closed := h.closed
  sound u hu := (h.sound u hu).imp_right fun ⟨hready, hleads⟩ =>
    ⟨hready, fun sites q hq => .open hstep (hleads sites q hq)⟩

/-- A stack that is met is opened, if what has not been met yet is opened behind it. -/
theorem opensStack_meet (hcovers : ∀ o, s ∈ o.seen → Covers o s)
    (hgo : ∀ o, s ∈ o.seen → (∀ k ∈ known, k ∈ o.seen) →
      Grows p s o (go o) ∧ (∀ t, Step p s t → Covers (go o) t) ∧ (IsReady s → s ∈ (go o).ready)) :
    OpensStack p known s (Opened.meet s go) := by
  intro o hknown
  rw [Opened.meet]
  split
  · rename_i hseen
    exact ⟨.refl p s o, hcovers o (List.contains_iff_mem.1 hseen)⟩
  · obtain ⟨hgrows, hsteps, hready⟩ := hgo ⟨s :: o.seen, o.ready⟩ List.mem_cons_self
      fun k hk => List.mem_cons_of_mem s (hknown k hk)
    refine ⟨⟨fun t ht => hgrows.seen t (List.mem_cons_of_mem s ht), hgrows.ready, fun t ht => ?_,
      hgrows.sound⟩, hcovers _ (hgrows.seen s List.mem_cons_self)⟩
    obtain ht | hnew := hgrows.closed t ht
    · obtain rfl | ht := List.mem_cons.1 ht
      · exact .inr ⟨hsteps, hready⟩
      · exact .inl ht
    · exact .inr hnew

/-- A stack with one step is opened by opening what it steps to. -/
theorem opensStack_of_step (hcovers : ∀ o, s ∈ o.seen → Covers o s) (hstep : Step p s t)
    (honly : ∀ u, Step p s u → u = t) (hnot : ¬ IsReady s) (hgo : OpensStack p (s :: known) t go) :
    OpensStack p known s (Opened.meet s go) := by
  refine opensStack_meet hcovers fun o hs hknown => ?_
  obtain ⟨hgrows, hcovered⟩ := hgo o (List.forall_mem_cons.2 ⟨hs, hknown⟩)
  exact ⟨hgrows.of_step hstep, fun u hu => honly u hu ▸ hcovered, fun h => absurd h hnot⟩

/-- A stack with two steps is opened by opening one of what it steps to and then the other. -/
theorem opensStack_of_steps {u : Stack} {first second : Opened → Opened}
    (hcovers : ∀ o, s ∈ o.seen → Covers o s) (ht : Step p s t) (hu : Step p s u)
    (honly : ∀ v, Step p s v → v = t ∨ v = u) (hnot : ¬ IsReady s)
    (hfirst : OpensStack p (s :: known) t first) (hsecond : OpensStack p (s :: known) u second) :
    OpensStack p known s (Opened.meet s fun o => second (first o)) := by
  refine opensStack_meet hcovers fun o hs hknown => ?_
  have hseen := List.forall_mem_cons.2 ⟨hs, hknown⟩
  obtain ⟨hgrows, hcovered⟩ := hfirst o hseen
  obtain ⟨hgrows', hcovered'⟩ := hsecond (first o) fun k hk => hgrows.seen k (hseen k hk)
  refine ⟨(hgrows.of_step ht).trans (hgrows'.of_step hu), fun v hv => ?_, fun h => absurd h hnot⟩
  obtain rfl | rfl := honly v hv
  · exact hcovered.mono hgrows'.seen
  · exact hcovered'

/-- A stack that is ready is noted. -/
theorem opensStack_note (hcovers : ∀ o, s ∈ o.seen → Covers o s) (hready : IsReady s)
    (hnot : ∀ t, ¬ Step p s t) : OpensStack p known s (Opened.meet s (Opened.note s)) := by
  refine opensStack_meet hcovers fun o _ _ => ⟨⟨fun _ h => h, fun t ht => ?_, fun _ => .inl,
    fun t ht => ?_⟩, fun t ht => absurd ht (hnot t), fun _ => List.mem_cons_self⟩
  · exact List.mem_cons_of_mem s ht
  · obtain rfl | ht := List.mem_cons.1 ht
    · exact .inr ⟨hready, fun _ _ h => h⟩
    · exact .inl ht

/-- It does no harm to know of more stacks that have been met. -/
theorem OpensStack.cons (h : OpensStack p known s f) (t : Stack) :
    OpensStack p (t :: known) s f :=
  fun o hseen => h o (List.forall_mem_cons.1 hseen).2

/-- What has been met need not be opened. -/
theorem opensStack_id (hcovers : ∀ o, s ∈ o.seen → Covers o s) :
    OpensStack p (s :: known) s id :=
  fun o hseen => ⟨.refl p s o, hcovers o (hseen s List.mem_cons_self)⟩

section Loops

variable {sub : Expr} {below : Stack} {enter : Stack → (Opened → Opened) → Opened → Opened}
  {after : Opened → Opened}

/-- The function opens the expression over each stack, given one that opens the stack. -/
def Enters (p : Place) (e : Expr) (enter : Stack → (Opened → Opened) → Opened → Opened) : Prop :=
  ∀ {known : List Stack} {below : Stack} {after : Opened → Opened},
    OpensStack p known below after → OpensStack p known (e :: below) (enter below after)

/-- To open a repetition is to open its part, and behind the part the repetition has been met
already. -/
theorem opensStack_openStar (henter : Enters p sub enter) (hafter : OpensStack p known below after)
    (greedy : Bool) :
    OpensStack p known (.star greedy sub :: below) (openStar greedy sub enter below after) := by
  have hcovers (o : Opened) (h : (.star greedy sub :: below : Stack) ∈ o.seen) :
      Covers o (.star greedy sub :: below) := h
  have hagain : OpensStack p (_ :: known) (sub :: .star greedy sub :: below)
      (enter (.star greedy sub :: below) id) := henter (opensStack_id hcovers)
  rw [openStar]
  cases greedy with
  | true =>
    refine opensStack_of_steps hcovers .starMore .starStop ?_ id hagain (hafter.cons _)
    rintro v (_ | _)
    · exact .inr rfl
    · exact .inl rfl
  | false =>
    refine opensStack_of_steps hcovers .starStop .starMore ?_ id (hafter.cons _) hagain
    rintro v (_ | _)
    · exact .inl rfl
    · exact .inr rfl

/-- To open a number of times is to open all of them, each over those that are still to come. -/
theorem opensStack_openExactly (henter : Enters p sub enter)
    (hafter : OpensStack p known below after) (n : Nat) :
    OpensStack p known (.exactly n sub :: below) (openExactly sub enter below after n) := by
  induction n generalizing known with
  | zero =>
    refine opensStack_of_step (fun _ h => h) .exactlyStop ?_ id (hafter.cons _)
    rintro u (_ | _)
    rfl
  | succ n ih =>
    refine opensStack_of_step (fun _ h => h) .exactlyMore ?_ id (henter (ih (hafter.cons _)))
    rintro u (_ | _)
    rfl

/-- Each of the times may be the last one, so what comes behind is opened over each of them. -/
theorem opensStack_openUpTo (henter : Enters p sub enter) (hafter : OpensStack p known below after)
    (greedy : Bool) (n : Nat) :
    OpensStack p known (.upTo greedy n sub :: below)
      (openUpTo greedy sub enter below after n) := by
  induction n generalizing known with
  | zero =>
    refine opensStack_of_step (fun _ h => h) .upToStop ?_ id (hafter.cons _)
    rintro u (_ | _)
    rfl
  | succ n ih =>
    have hagain : OpensStack p (_ :: known) (sub :: .upTo greedy n sub :: below) _ :=
      henter (ih (hafter.cons (.upTo greedy (n + 1) sub :: below)))
    rw [openUpTo]
    cases greedy with
    | true =>
      refine opensStack_of_steps (fun _ h => h) .upToMore .upToStop ?_ id hagain (hafter.cons _)
      rintro v (_ | _)
      · exact .inr rfl
      · exact .inl rfl
    | false =>
      refine opensStack_of_steps (fun _ h => h) .upToStop .upToMore ?_ id (hafter.cons _) hagain
      rintro v (_ | _)
      · exact .inl rfl
      · exact .inr rfl

end Loops

/-- **Each expression is opened as its stack is**, given what to do behind it. -/
theorem Expr.enters (p : Place) (e : Expr) : Enters p e (e.openAt p) := by
  induction e with
  | empty =>
    intro known below after hafter
    refine opensStack_of_step (fun _ h => h) .empty ?_ id (hafter.cons _)
    rintro u (_ | _)
    rfl
  | leaf site =>
    intro known below after _
    refine opensStack_note (fun _ h => h) trivial ?_
    rintro t (_ | _)
  | look l =>
    intro known below after hafter
    rw [openAt]
    cases hl : l.holds p with
    | true =>
      refine opensStack_of_step (fun _ h => h) (.look hl) ?_ id (hafter.cons _)
      rintro u (_ | _)
      rfl
    | false =>
      refine opensStack_meet (fun _ h => h) fun o _ _ => ⟨.refl p _ o, ?_, False.elim⟩
      rintro u (_ | h)
      rw [hl] at h
      cases h
  | seq a b iha ihb =>
    intro known below after hafter o hknown
    obtain ⟨hgrows, hcovered⟩ := iha (ihb hafter) o hknown
    exact ⟨hgrows.of_step .seq, hcovered⟩
  | alt a b iha ihb =>
    intro known below after hafter
    refine opensStack_of_steps (fun _ h => h) .altFirst .altRest ?_ id (iha (hafter.cons _))
      (ihb (hafter.cons _))
    rintro v (_ | _)
    · exact .inl rfl
    · exact .inr rfl
  | star greedy sub ih => exact fun hafter => opensStack_openStar ih hafter greedy
  | plus greedy sub ih =>
    intro known below after hafter
    refine opensStack_of_step (fun _ h => h) .plus ?_ id
      (ih (opensStack_openStar ih (hafter.cons _) greedy))
    rintro u (_ | _)
    rfl
  | exactly n sub ih => exact fun hafter => opensStack_openExactly ih hafter n
  | upTo greedy n sub ih => exact fun hafter => opensStack_openUpTo ih hafter greedy n

/-- A stack is opened from its first expression on. -/
theorem opensStack_openStack (p : Place) (s : Stack) : OpensStack p [] s (Expr.openStack p s) := by
  induction s with
  | nil =>
    refine opensStack_note (fun _ h => h) trivial ?_
    rintro t (_ | _)
  | cons e s ih => exact e.enters p ih

/-! ## The front -/

/-- All stacks of the front have been opened, and what has been met is closed. -/
structure Gathers (p : Place) (front : List Stack) (o : Opened) : Prop where
  covers : ∀ s ∈ front, Covers o s
  closed : ∀ t ∈ o.seen, (∀ u, Step p t u → Covers o u) ∧ (IsReady t → t ∈ o.ready)
  sound : ∀ t ∈ o.ready, IsReady t ∧
    ∃ s ∈ front, ∀ sites q, Leads sites t p q → Leads sites s p q

variable {front : List Stack}

/-- Stack after stack, all of a front are opened, and what they come to is gathered. -/
theorem gathers_foldl (p : Place) (front : List Stack) :
    Gathers p front (front.foldl (fun o s => Expr.openStack p s o) Opened.none) := by
  induction front using List.reverseRecOn with
  | nil => exact ⟨nofun, nofun, nofun⟩
  | append_singleton front s ih =>
    rw [List.foldl_append, List.foldl_cons, List.foldl_nil]
    obtain ⟨hgrows, hcovered⟩ := opensStack_openStack p s _ (fun _ h => by cases h)
    refine ⟨fun t ht => ?_, fun t ht => ?_, fun t ht => ?_⟩
    · obtain ht | ht := List.mem_append.1 ht
      · exact (ih.covers t ht).mono hgrows.seen
      · rw [List.mem_singleton.1 ht]
        exact hcovered
    · obtain ht | hnew := hgrows.closed t ht
      · obtain ⟨hsteps, hready⟩ := ih.closed t ht
        exact ⟨fun u hu => (hsteps u hu).mono hgrows.seen, fun hr => hgrows.ready t (hready hr)⟩
      · exact hnew
    · obtain ht | ⟨hready, hleads⟩ := hgrows.sound t ht
      · obtain ⟨hready, r, hr, hleads⟩ := ih.sound t ht
        exact ⟨hready, r, List.mem_append_left _ hr, hleads⟩
      · exact ⟨hready, s, List.mem_append_right _ (List.mem_singleton_self s), hleads⟩

/-- What has been gathered is closed under the steps of opening. -/
theorem Gathers.covers_of_step (h : Gathers p front o) (hs : Covers o s) (hstep : Step p s t) :
    Covers o t := by
  have hmet := hstep
  cases hmet with
  | seq => exact hs
  | _ => exact (h.closed _ hs).1 _ hstep

/-- Where a stack leads that has been opened, one leads that is ready. -/
theorem Gathers.exists_leads (h : Gathers p front o) (hs : Covers o s)
    (hleads : Leads sites s p q) : ∃ t ∈ o.ready, Leads sites t p q := by
  induction hleads with
  | done p => exact ⟨[], (h.closed _ hs).2 trivial, .done p⟩
  | read hc hmore _ => exact ⟨_, (h.closed _ hs).2 trivial, .read hc hmore⟩
  | «open» hstep _ ih => exact ih h (h.covers_of_step hs hstep)

/-- What is ready behind opening reads a character next, or has nothing left to do. -/
theorem isReady_of_mem_ready (h : t ∈ ready p front) : IsReady t :=
  ((gathers_foldl p front).sound t (List.mem_reverse.1 h)).1

/-- What a stack that is ready leads to, one of the front leads to. -/
theorem exists_mem_front (h : t ∈ ready p front) :
    ∃ s ∈ front, ∀ sites q, Leads sites t p q → Leads sites s p q :=
  ((gathers_foldl p front).sound t (List.mem_reverse.1 h)).2

/-- What a stack of the front leads to, one that is ready leads to. -/
theorem exists_mem_ready (hs : s ∈ front) (h : Leads sites s p q) :
    ∃ t ∈ ready p front, Leads sites t p q := by
  have hgathers := gathers_foldl p front
  obtain ⟨t, ht, hleads⟩ := hgathers.exists_leads (hgathers.covers s hs) h
  exact ⟨t, List.mem_reverse.2 ht, hleads⟩

/-! ## Matching -/

/-- A stack that is ready has nothing left, or it reads a character with its leaf. -/
theorem IsReady.cases_leads (hs : IsReady s) (h : Leads sites s p q) :
    (s = [] ∧ p = q) ∨ ∃ prev c rest t, p = ⟨prev, c :: rest⟩ ∧ s.read? sites c = some t ∧
      Leads sites t ⟨some c, rest⟩ q := by
  cases h with
  | done => exact .inl ⟨rfl, rfl⟩
  | @read site t prev c rest _ hc h =>
    exact .inr ⟨prev, c, rest, t, rfl, by rw [Stack.read?, if_pos hc], h⟩
  | «open» hstep => cases hstep <;> exact hs.elim

/-- Reading a character is a step of matching. -/
theorem leads_of_read? {c : Char} {prev : Option Char} {rest : List Char}
    (h : s.read? sites c = some t) (ht : Leads sites t ⟨some c, rest⟩ q) :
    Leads sites s ⟨prev, c :: rest⟩ q := by
  unfold Stack.read? at h
  split at h
  · split at h
    · rename_i hc
      obtain rfl := Option.some.inj h
      exact .read hc ht
    · cases h
  · cases h

/-- A match that has been found is not lost again. -/
theorem isSome_matchFrom {n : Nat} {best : Option Nat} (hbest : best.isSome = true)
    (rest : List Char) : (matchFrom sites front n best rest).isSome = true := by
  induction rest generalizing front n best with
  | nil =>
    rw [matchFrom]
    split
    · rfl
    · exact hbest
  | cons c rest ih =>
    have hbest' : (if front.contains [] then some n else best).isSome = true := by
      split
      · rfl
      · exact hbest
    rw [matchFrom]
    split
    · exact hbest'
    · exact ih hbest'

/-- **Where a stack of the front leads somewhere, something is found.** -/
theorem isSome_matchFrom_of_leads {n : Nat} {best : Option Nat} {prev : Option Char}
    {rest : List Char} (hfront : ∀ s ∈ front, IsReady s) (hs : s ∈ front)
    (h : Leads sites s ⟨prev, rest⟩ q) : (matchFrom sites front n best rest).isSome = true := by
  induction rest generalizing front n best prev s with
  | nil =>
    obtain ⟨rfl, -⟩ | ⟨_, _, _, _, heq, -⟩ := (hfront s hs).cases_leads h
    · rw [matchFrom, if_pos (List.contains_iff_mem.2 hs)]
      rfl
    · cases heq
  | cons c rest ih =>
    by_cases hdone : front.contains [] = true
    · rw [matchFrom, if_pos hdone]
      split
      · rfl
      · exact isSome_matchFrom rfl rest
    · have hempty (t : Stack) (ht : t ∈ front) : t ≠ [] := by
        rintro rfl
        exact hdone (List.contains_iff_mem.2 ht)
      have hall : front.takeWhile (!·.isEmpty) = front :=
        List.takeWhile_eq_self_iff.2 fun t ht => by
          simpa using hempty t ht
      obtain ⟨rfl, -⟩ | ⟨_, _, _, t, heq, hread, ht⟩ := (hfront s hs).cases_leads h
      · exact absurd rfl (hempty [] hs)
      obtain ⟨rfl, rfl, rfl⟩ : _ ∧ _ ∧ _ := by simpa using heq
      have hnext : t ∈ front.filterMap (Stack.read? sites c) :=
        List.mem_filterMap.2 ⟨s, hs, hread⟩
      rw [matchFrom, hall]
      split
      · rename_i hnil
        rw [hnil] at hnext
        cases hnext
      · obtain ⟨u, hu, hleads⟩ := exists_mem_ready hnext ht
        exact ih (fun _ h => isReady_of_mem_ready h) hu hleads

/-- A match that ends here. -/
theorem leads_of_best {n m : Nat} {best : Option Nat} (p : Place)
    (h : (if front.contains [] then some n else best) = some m) :
    best = some m ∨ ∃ s ∈ front, ∃ k, m = n + k ∧ Leads sites s p (p.skip k) := by
  split at h
  · rename_i hdone
    obtain rfl := Option.some.inj h
    exact .inr ⟨[], List.contains_iff_mem.1 hdone, 0, rfl, .done p⟩
  · exact .inl h

/-- **What is found, a stack of the front leads to.** -/
theorem leads_of_matchFrom {n m : Nat} {best : Option Nat} (prev : Option Char) {rest : List Char}
    (h : matchFrom sites front n best rest = some m) :
    best = some m ∨ ∃ s ∈ front, ∃ k, m = n + k ∧
      Leads sites s ⟨prev, rest⟩ (Place.skip k ⟨prev, rest⟩) := by
  induction rest generalizing front n best prev with
  | nil => exact leads_of_best _ h
  | cons c rest ih =>
    rw [matchFrom] at h
    split at h
    · exact leads_of_best _ h
    · obtain hbest | ⟨t, ht, k, rfl, hleads⟩ := ih (some c) h
      · exact leads_of_best _ hbest
      · obtain ⟨u, hu, hsound⟩ := exists_mem_front ht
        obtain ⟨s, hs, hread⟩ := List.mem_filterMap.1 hu
        refine .inr ⟨s, (List.takeWhile_sublist _).subset hs, k + 1, by omega, ?_⟩
        exact leads_of_read? hread (hsound _ _ hleads)

/-- **Where an expression can match, there is a preferred match.** -/
theorem Expr.exists_preferred? (h : e.language sites p q) : ∃ n, e.preferred? sites p = some n := by
  obtain ⟨t, ht, hleads⟩ := exists_mem_ready (List.mem_singleton_self [e]) (leads_singleton_iff.2 h)
  exact Option.isSome_iff_exists.1
    (isSome_matchFrom_of_leads (fun _ h => isReady_of_mem_ready h) ht hleads)

/-- **The preferred match is a match.** -/
theorem Expr.language_of_preferred? {n : Nat} (h : e.preferred? sites p = some n) :
    e.language sites p (p.skip n) := by
  obtain hnone | ⟨t, ht, k, rfl, hleads⟩ := leads_of_matchFrom p.prev h
  · cases hnone
  · obtain ⟨s, hs, hsound⟩ := exists_mem_front ht
    obtain rfl := List.mem_singleton.1 hs
    rw [Nat.zero_add]
    exact leads_singleton_iff.1 (hsound _ _ hleads)

end Descent.Pattern
