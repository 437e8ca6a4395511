import Descent.Proofs.Lexer.Tiling

/-!
# Where tokens stand

A token stands in a text where the tile stood that it was made of. Tiles are not empty and stand one
right behind the other, so that their stretches cover the text (`Text.Covers`). What is left of such
stretches when some of them are taken away still stands apart (`Text.Apart`): the tokens of a text
do (`Lexer.apart_of_lex`), and so do the pieces that were skipped. Put together again in their
order, the one and the other are all stretches (`Text.merge_filter`), unless a tile was dropped.
-/

namespace Descent

namespace Text

/-- A piece of a text, by its offsets. -/
structure Stretch where
  /-- the offset at which the piece begins -/
  start : Nat
  /-- the offset at which the piece ends -/
  stop : Nat
deriving DecidableEq

/-- The stretches stand one right behind the other, from `p` to `q`, and none of them is empty. -/
def Covers (p q : Nat) : List Stretch → Prop
  | [] => p = q
  | s :: rest => s.start = p ∧ s.start < s.stop ∧ Covers s.stop q rest

/-- The stretches stand in order. None of them is empty, and none reaches into the next. -/
structure Apart (stretches : List Stretch) : Prop where
  nonempty : ∀ s ∈ stretches, s.start < s.stop
  ordered : stretches.Pairwise fun s t => s.stop ≤ t.start

theorem Covers.le {p q : Nat} {stretches : List Stretch} (h : Covers p q stretches) :
    ∀ s ∈ stretches, p ≤ s.start := by
  induction stretches generalizing p with
  | nil => nofun
  | cons t rest ih =>
    obtain ⟨rfl, hlt, hrest⟩ := h
    intro s hs
    obtain rfl | hs := List.mem_cons.1 hs
    · exact Nat.le_refl _
    · exact Nat.le_trans hlt.le (ih hrest s hs)

/-- Stretches that cover a text stand apart. -/
theorem Covers.apart {p q : Nat} {stretches : List Stretch} (h : Covers p q stretches) :
    Apart stretches := by
  induction stretches generalizing p with
  | nil => exact ⟨nofun, .nil⟩
  | cons t rest ih =>
    obtain ⟨-, hlt, hrest⟩ := h
    have hapart := ih hrest
    exact ⟨List.forall_mem_cons.2 ⟨hlt, hapart.nonempty⟩, .cons hrest.le hapart.ordered⟩

theorem Apart.sublist {stretches stretches' : List Stretch} (h : Apart stretches)
    (hsub : stretches'.Sublist stretches) : Apart stretches' :=
  ⟨fun s hs => h.nonempty s (hsub.subset hs), h.ordered.sublist hsub⟩

/-! ## Putting stretches together -/

section Merge

variable {s : Stretch} {xs ys : List Stretch}

/-- Stretches of two lists, in the order in which they begin. -/
def merge (xs ys : List Stretch) : List Stretch := xs.merge ys fun s t => s.start ≤ t.start

theorem merge_cons_left (h : ∀ t ∈ ys, s.start ≤ t.start) :
    merge (s :: xs) ys = s :: merge xs ys := by
  cases ys with
  | nil => rw [merge, merge, List.merge_right, List.merge_right]
  | cons t ys =>
    have hle := h t List.mem_cons_self
    rw [merge, List.cons_merge_cons, if_pos (decide_eq_true hle), merge]

theorem merge_cons_right (h : ∀ t ∈ xs, s.start < t.start) :
    merge xs (s :: ys) = s :: merge xs ys := by
  cases xs with
  | nil => rw [merge, merge, List.nil_merge, List.nil_merge]
  | cons t xs =>
    have hlt := h t List.mem_cons_self
    rw [merge, List.cons_merge_cons, if_neg (by simpa using hlt), merge]

/-- **Of stretches that stand apart, any choice and the others make up all of them** again. -/
theorem merge_filter {β : Type} (stretch : β → Stretch) (chosen : β → Bool) {items : List β}
    (h : Apart (items.map stretch)) :
    merge ((items.filter chosen).map stretch) ((items.filter fun b => !chosen b).map stretch) =
      items.map stretch := by
  induction items with
  | nil => exact List.merge_right []
  | cons b items ih =>
    have hrest : Apart (items.map stretch) := h.sublist (List.sublist_cons_self _ _)
    -- the first of the items begins before all others
    have hfirst (p : β → Bool) :
        ∀ t ∈ (items.filter p).map stretch, (stretch b).start < t.start := by
      intro t ht
      have hmem := (List.filter_sublist.map stretch).subset ht
      have hstop := List.rel_of_pairwise_cons h.ordered hmem
      have hlt := h.nonempty (stretch b) List.mem_cons_self
      omega
    cases hb : chosen b with
    | true =>
      rw [List.filter_cons_of_pos hb, List.filter_cons_of_neg (by simp [hb]), List.map_cons,
        merge_cons_left fun t ht => (hfirst _ t ht).le, ih hrest, List.map_cons]
    | false =>
      rw [List.filter_cons_of_neg (by simp [hb]), List.filter_cons_of_pos (by simp [hb]),
        List.map_cons, merge_cons_right (hfirst _), ih hrest, List.map_cons]

end Merge

end Text

open Text (Stretch Covers Apart)

variable {κ : Type}

/-- Where a token stands. -/
def Token.stretch (t : Token κ) : Stretch := ⟨t.start, t.stop⟩

/-- Where a segment stands. -/
def Segment.stretch (s : Segment κ) : Stretch := ⟨s.start, s.stop⟩

/-- A token stands where its segment stands. -/
theorem Segment.stretch_of_token? {s : Segment κ} {t : Token κ} (h : s.token? = some t) :
    t.stretch = s.stretch := by
  obtain ⟨_, -, rfl⟩ := Option.map_eq_some_iff.1 h
  rfl

/-- The tokens of a scan stand where those segments stand that tokens were made of. -/
theorem Scan.map_stretch_tokens (s : Scan κ) :
    s.tokens.map Token.stretch =
      (s.segments.filter fun g => g.token?.isSome).map Segment.stretch := by
  rw [tokens]
  induction s.segments with
  | nil => rfl
  | cons g segments ih =>
    cases hg : g.token? with
    | none => rw [List.filterMap_cons_none hg, ih, List.filter_cons_of_neg (by simp [hg])]
    | some t =>
      rw [List.filterMap_cons_some hg, List.filter_cons_of_pos (by simp [hg]), List.map_cons,
        List.map_cons, ih, Segment.stretch_of_token? hg]

namespace Lexer

variable {l : Lexer κ} {text : String}

theorem IsTile.start_mem_boundaries {t : Tile κ} (ht : l.IsTile text t) :
    t.start ∈ Text.boundaries text.toList := by
  obtain ⟨r, -, -, before, piece, after, htext, hstart, -⟩ := ht.found
  exact Text.mem_boundaries_iff.2 ⟨before, piece ++ after, htext, hstart⟩

theorem Tiling.isTile {p q : Nat} {tiles : List (Tile κ)} (h : l.Tiling text p tiles q) :
    ∀ t ∈ tiles, l.IsTile text t := by
  induction h with
  | nil => nofun
  | cons head _ ih => exact List.forall_mem_cons.2 ⟨head, ih⟩

theorem Tiling.covers {p q : Nat} {segments : List (Segment κ)}
    (h : l.Tiling text p (segments.map Segment.tile) q) :
    Covers p q (segments.map Segment.stretch) := by
  induction segments generalizing p with
  | nil =>
    cases h
    exact rfl
  | cons g segments ih =>
    cases h with
    | cons head tail => exact ⟨rfl, head.nonempty, ih tail⟩

/-- The segments of a scan cover the text as far as it was cut. -/
theorem Cuts.covers {p : Nat} {s : Scan κ} (h : l.Cuts text p s) :
    Covers p (s.stuck.getD text.utf8ByteSize) (s.segments.map Segment.stretch) :=
  h.tiling.covers

theorem Cuts.mem_boundaries {p : Nat} {s : Scan κ} (h : l.Cuts text p s) {g : Segment κ}
    (hg : g ∈ s.segments) :
    g.start ∈ Text.boundaries text.toList ∧ g.stop ∈ Text.boundaries text.toList := by
  have htile := h.tiling.isTile _ (List.mem_map_of_mem hg)
  exact ⟨htile.start_mem_boundaries, htile.stop_mem_boundaries⟩

theorem tokens_of_lex {tokens : List (Token κ)} (h : l.lex text = .ok tokens) :
    (l.scan text).stuck = none ∧ (l.scan text).tokens = tokens := by
  rw [lex, Scan.result] at h
  split at h
  · rename_i hstuck
    exact ⟨hstuck, Except.ok.inj h⟩
  · cases h

/-- If a text has no tokens then its scan is stuck somewhere, and the diagnostic points there. -/
theorem exists_stuck_of_lex_error {d : Diagnostic} (h : l.lex text = .error d) :
    ∃ q, (l.scan text).stuck = some q ∧ q ∈ Text.boundaries text.toList ∧
      d = ⟨.lexical, Diagnostic.invalidCharacter, text, q⟩ := by
  have hboundary := (cuts_scan l text).tiling.mem_boundaries (Text.zero_mem_boundaries _)
  rw [lex, Scan.result] at h
  cases hstuck : (l.scan text).stuck with
  | none =>
    rw [hstuck] at h
    cases h
  | some q =>
    rw [hstuck] at h
    rw [hstuck, Option.getD_some] at hboundary
    refine ⟨q, rfl, hboundary, ?_⟩
    rw [← Except.error.inj h, Diagnostic.lexical_of_mem_boundaries hboundary]

/-- **The tokens of a text stand apart**, in the order of the text. -/
theorem apart_of_lex {tokens : List (Token κ)} (h : l.lex text = .ok tokens) :
    Apart (tokens.map Token.stretch) := by
  obtain ⟨-, rfl⟩ := tokens_of_lex h
  rw [Scan.map_stretch_tokens]
  exact (cuts_scan l text).covers.apart.sublist (List.filter_sublist.map _)

/-- **The tokens of a text begin and end at boundaries.** -/
theorem mem_boundaries_of_lex {tokens : List (Token κ)} (h : l.lex text = .ok tokens)
    {t : Token κ} (ht : t ∈ tokens) :
    t.start ∈ Text.boundaries text.toList ∧ t.stop ∈ Text.boundaries text.toList := by
  obtain ⟨-, rfl⟩ := tokens_of_lex h
  obtain ⟨g, hg, hgt⟩ := List.mem_filterMap.1 ht
  obtain ⟨hstart, hstop⟩ := Stretch.mk.inj (Segment.stretch_of_token? hgt)
  rw [hstart, hstop]
  exact (cuts_scan l text).mem_boundaries hg

end Lexer

end Descent
