import Descent.Lexer
import Descent.Proofs.Text.Boundary

/-!
# Lexing is tiling by the first rule

What a lexer does can be said without a scan. A pattern *finds* the text between two boundaries if
this is what it prefers at the first of them. At a boundary there is a *tile* if some rule finds a
text there that is not empty; the tile belongs to the first such rule. Tiles may be laid one behind
the other, and there is only one way to do it (`Lexer.Tiling.eq_of_stuck`), for the first rule and
what it finds are determined by the place.

The scan lays tiles until it is stuck or at the end (`Lexer.cuts_scan`). So a text has tokens if
tiles cover it, and they are what the actions of the rules make of the tiles; otherwise the
diagnostic points to the place at which the tiles end (`Lexer.lex_iff_tiling`).

Here a pattern is asked what it prefers at one place. A lexer can also search the text from an
offset on with each rule, and drop what is found further on or is empty. It has the same outcome
then (`Lexer.checkedLex_eq`): what a search finds right where it begins is what is preferred there.
-/

namespace Descent

/-! ## Places -/

namespace Text.Place

/-- The place behind some text and before some other. -/
def between (before after : List Char) : Place := ⟨before.getLast?, after⟩

theorem skip_length (before piece after : List Char) :
    (between before (piece ++ after)).skip piece.length = between (before ++ piece) after := by
  induction piece generalizing before with
  | nil => rw [List.append_nil]; rfl
  | cons c piece ih =>
    have hstep : (between before (c :: piece ++ after)).skip (c :: piece).length =
        (between (before ++ [c]) (piece ++ after)).skip piece.length := by
      simp [between, skip]
    rw [hstep, ih, List.append_assoc, List.singleton_append]

end Text.Place

open Text (Place)

/-! ## What a pattern finds -/

namespace Pattern

theorem le_of_mem_best (front : List Stack) {n bound : Nat} {best : Option Nat} (hn : n ≤ bound)
    (hbest : ∀ k ∈ best, k ≤ bound) :
    ∀ k ∈ (if front.contains [] then some n else best), k ≤ bound := by
  intro k hk
  split at hk
  · obtain rfl := Option.some.inj hk
    exact hn
  · exact hbest k hk

theorem matchFrom_le {sites : Sites} {front : List Stack} {n m : Nat} {best : Option Nat}
    {rest : List Char} (hbest : ∀ k ∈ best, k ≤ n + rest.length)
    (h : matchFrom sites front n best rest = some m) : m ≤ n + rest.length := by
  induction rest generalizing front n best with
  | nil => exact le_of_mem_best front (Nat.le_add_right n _) hbest m h
  | cons c rest ih =>
    have hbest' := le_of_mem_best front (Nat.le_add_right n _) hbest
    rw [List.length_cons, Nat.add_comm rest.length, ← Nat.add_assoc] at hbest' ⊢
    simp only [matchFrom] at h
    split at h
    · exact hbest' m h
    · exact ih hbest' h

/-- A pattern matches no more than there is. -/
theorem le_of_preferred? {pattern : Pattern} {p : Place} {n : Nat}
    (h : pattern.preferred? p = some n) : n ≤ p.rest.length := by
  have := matchFrom_le (fun k hk => absurd hk (Option.not_mem_none k)) h
  rwa [Nat.zero_add] at this

/-- What is preferred has bytes if it has characters. -/
theorem byteLength_take_pos {pattern : Pattern} {p : Place} {n : Nat} (hn : 0 < n)
    (h : pattern.preferred? p = some n) : 0 < Text.byteLength (p.rest.take n) := by
  have hlen := Text.length_le_byteLength (p.rest.take n)
  rw [List.length_take_of_le (le_of_preferred? h)] at hlen
  omega

/-- The pattern finds the text from `start` to `stop`: this is what it prefers at `start`. -/
def Finds (pattern : Pattern) (text : String) (start stop : Nat) : Prop :=
  ∃ before piece after : List Char,
    text.toList = before ++ (piece ++ after) ∧
    Text.byteLength before = start ∧ start + Text.byteLength piece = stop ∧
    pattern.preferred? (.between before (piece ++ after)) = some piece.length

/-- A pattern finds at most one text at a place. -/
theorem Finds.stop_eq {pattern : Pattern} {text : String} {start stop stop' : Nat}
    (h : pattern.Finds text start stop) (h' : pattern.Finds text start stop') : stop = stop' := by
  obtain ⟨before, piece, after, htext, hstart, rfl, hn⟩ := h
  obtain ⟨before', piece', after', htext', hstart', rfl, hn'⟩ := h'
  obtain ⟨rfl, hrest⟩ :=
    Text.append_inj_of_byteLength_eq (htext.symm.trans htext') (hstart.trans hstart'.symm)
  rw [← hrest, hn] at hn'
  obtain ⟨rfl, -⟩ := List.append_inj hrest (Option.some.inj hn')
  rfl

/-- What a pattern finds at a boundary is the length that it prefers there. -/
theorem finds_iff {pattern : Pattern} {text : String} {before after : List Char}
    (htext : text.toList = before ++ after) {stop : Nat} :
    pattern.Finds text (Text.byteLength before) stop ↔
      ∃ n, pattern.preferred? (.between before after) = some n ∧
        stop = Text.byteLength before + Text.byteLength (after.take n) := by
  constructor
  · rintro ⟨before', piece, rest, htext', hstart, rfl, hn⟩
    obtain ⟨rfl, rfl⟩ :=
      Text.append_inj_of_byteLength_eq (htext.symm.trans htext') hstart.symm
    exact ⟨piece.length, hn, by rw [List.take_left]⟩
  · rintro ⟨n, hn, rfl⟩
    have hle : n ≤ after.length := le_of_preferred? hn
    refine ⟨before, after.take n, after.drop n, ?_, rfl, rfl, ?_⟩
    · rw [List.take_append_drop, htext]
    · rw [List.take_append_drop, List.length_take_of_le hle, hn]

end Pattern

/-! ## Tiles -/

variable {κ : Type}

/-- A piece of a text, by its offsets, and the rule that it belongs to. -/
structure Tile (κ : Type) where
  /-- the number of the rule, counted from zero -/
  index : Nat
  /-- what to do with the piece -/
  action : Action κ
  /-- the offset at which the piece begins -/
  start : Nat
  /-- the offset at which the piece ends -/
  stop : Nat

/-- The tokens that the action makes of a tile: one or none. -/
def Tile.tokens (text : String) (t : Tile κ) : List (Token κ) :=
  match t.action with
  | .emit kind => [⟨kind, Text.slice text t.start t.stop, t.start, t.stop⟩]
  | .skip => []
  | .callback decide =>
    match decide (Text.slice text t.start t.stop) with
    | some (kind, value) => [⟨kind, value, t.start, t.stop⟩]
    | none => []

namespace Lexer

/-- A tile of a text: its rule finds it, it is not empty, and no earlier rule finds anything there
that is not empty. -/
structure IsTile (l : Lexer κ) (text : String) (t : Tile κ) : Prop where
  found : ∃ r, l.rules[t.index]? = some r ∧ r.action = t.action ∧
    r.pattern.Finds text t.start t.stop
  nonempty : t.start < t.stop
  first : ∀ j r stop, j < t.index → l.rules[j]? = some r → t.start < stop →
    ¬ r.pattern.Finds text t.start stop

/-- Tiles one behind the other, from `p` on. They end at the last offset. -/
inductive Tiling (l : Lexer κ) (text : String) : (p : Nat) → List (Tile κ) → Nat → Prop
  | nil (p : Nat) : Tiling l text p [] p
  | cons {t : Tile κ} {tiles : List (Tile κ)} {q : Nat} (head : l.IsTile text t)
      (tail : Tiling l text t.stop tiles q) : Tiling l text t.start (t :: tiles) q

/-- There is no tile at `p`. -/
def Stuck (l : Lexer κ) (text : String) (p : Nat) : Prop :=
  ∀ t, l.IsTile text t → t.start ≠ p

variable {l : Lexer κ} {text : String}

theorem IsTile.index_le {t u : Tile κ} (ht : l.IsTile text t) (hu : l.IsTile text u)
    (hstart : t.start = u.start) : t.index ≤ u.index := by
  by_contra hlt
  obtain ⟨r, hr, -, hfinds⟩ := hu.found
  refine ht.first u.index r u.stop (Nat.lt_of_not_le hlt) hr ?_ ?_
  · rw [hstart]
    exact hu.nonempty
  · rw [hstart]
    exact hfinds

/-- **At a place there is at most one tile**: the first rule, and what it finds. -/
theorem IsTile.eq_of_start_eq {t u : Tile κ} (ht : l.IsTile text t) (hu : l.IsTile text u)
    (hstart : t.start = u.start) : t = u := by
  have hindex := Nat.le_antisymm (ht.index_le hu hstart) (hu.index_le ht hstart.symm)
  obtain ⟨r, hr, haction, hfinds⟩ := ht.found
  obtain ⟨r', hr', haction', hfinds'⟩ := hu.found
  obtain rfl : r = r' := by
    rw [hindex, hr'] at hr
    exact (Option.some.inj hr).symm
  rw [hstart] at hfinds
  have hstop := hfinds.stop_eq hfinds'
  cases t
  cases u
  simp_all

theorem IsTile.stop_mem_boundaries {t : Tile κ} (ht : l.IsTile text t) :
    t.stop ∈ Text.boundaries text.toList := by
  obtain ⟨r, -, -, before, piece, after, htext, hstart, hstop, -⟩ := ht.found
  refine Text.mem_boundaries_iff.2 ⟨before ++ piece, after, ?_, ?_⟩
  · rw [htext, List.append_assoc]
  · rw [Text.byteLength_append, hstart, hstop]

/-- Any tiles that are laid are the first of all those that can be laid. -/
theorem Tiling.exists_rest {p q q' : Nat} {tiles tiles' : List (Tile κ)}
    (h : l.Tiling text p tiles q) (h' : l.Tiling text p tiles' q') (hq' : l.Stuck text q') :
    ∃ rest, tiles' = tiles ++ rest ∧ l.Tiling text q rest q' := by
  induction h generalizing tiles' with
  | nil p => exact ⟨tiles', rfl, h'⟩
  | @cons t tiles q head _ ih =>
    generalize hp : t.start = p at h'
    cases h' with
    | nil => exact absurd hp (hq' _ head)
    | cons head' tail' =>
      obtain rfl := head.eq_of_start_eq head' hp
      obtain ⟨rest, rfl, hrest⟩ := ih tail'
      exact ⟨rest, rfl, hrest⟩

/-- **Tiles can be laid in one way only**, as far as they can be laid. -/
theorem Tiling.eq_of_stuck {p q q' : Nat} {tiles tiles' : List (Tile κ)}
    (h : l.Tiling text p tiles q) (hq : l.Stuck text q) (h' : l.Tiling text p tiles' q')
    (hq' : l.Stuck text q') : tiles = tiles' ∧ q = q' := by
  obtain ⟨rest, rfl, hrest⟩ := h.exists_rest h' hq'
  cases hrest with
  | nil => exact ⟨(List.append_nil tiles).symm, rfl⟩
  | cons head _ => exact absurd rfl (hq _ head)

theorem Tiling.mem_boundaries {p q : Nat} {tiles : List (Tile κ)} (h : l.Tiling text p tiles q)
    (hp : p ∈ Text.boundaries text.toList) : q ∈ Text.boundaries text.toList := by
  induction h with
  | nil => exact hp
  | cons head _ ih => exact ih head.stop_mem_boundaries

/-- Behind the text there is no tile. -/
theorem stuck_utf8ByteSize (l : Lexer κ) (text : String) : l.Stuck text text.utf8ByteSize := by
  intro t ht hstart
  have hle := Text.le_utf8ByteSize_of_mem_boundaries ht.stop_mem_boundaries
  have := ht.nonempty
  omega

/-! ## The scan lays tiles -/

theorem firstHit?_eq_some {p : Place} {i : Nat} {rules : List (CompiledRule κ)} {hit : Hit κ}
    (h : firstHit? p i rules = some hit) :
    ∃ k, hit.index = i + k ∧ rules[k]? = some hit.rule ∧
      hit.rule.pattern.preferred? p = some hit.length ∧
      ∀ j r n, j < k → rules[j]? = some r → r.pattern.preferred? p = some n → n = 0 := by
  fun_induction firstHit? p i rules with
  | case1 => cases h
  | case2 i r rules n hn =>
    obtain rfl := Option.some.inj h
    exact ⟨0, rfl, rfl, hn, fun j _ _ hj => absurd hj (Nat.not_lt_zero j)⟩
  | case3 i r rules hn ih =>
    obtain ⟨k, hindex, hrule, hlength, hfirst⟩ := ih h
    refine ⟨k + 1, by omega, hrule, hlength, ?_⟩
    intro j s m hj hs hm
    cases j with
    | zero =>
      obtain rfl := Option.some.inj hs
      cases m with
      | zero => rfl
      | succ m => exact absurd hm (hn m)
    | succ j => exact hfirst j s m (by omega) hs hm

theorem firstHit?_eq_none {p : Place} {i : Nat} {rules : List (CompiledRule κ)}
    (h : firstHit? p i rules = none) {r : CompiledRule κ} (hr : r ∈ rules) {n : Nat}
    (hn : r.pattern.preferred? p = some n) : n = 0 := by
  fun_induction firstHit? p i rules with
  | case1 => cases hr
  | case2 => cases h
  | case3 i s rules hs ih =>
    obtain rfl | hr := List.mem_cons.1 hr
    · cases n with
      | zero => rfl
      | succ n => exact absurd hn (hs n)
    · exact ih h hr

/-- What is taken at a boundary is a tile. -/
theorem isTile_of_hit? {before after : List Char} {hit : Hit κ}
    (htext : text.toList = before ++ after) (h : l.hit? (.between before after) = some hit) :
    l.IsTile text ⟨hit.index, hit.rule.action, Text.byteLength before,
      Text.byteLength before + Text.byteLength (after.take hit.length)⟩ := by
  obtain ⟨k, hindex, hrule, hlength, hfirst⟩ := firstHit?_eq_some h
  have hpiece := Pattern.byteLength_take_pos hit.length_pos hlength
  rw [Nat.zero_add] at hindex
  refine ⟨⟨hit.rule, ?_, rfl, ?_⟩, Nat.lt_add_of_pos_right hpiece, ?_⟩
  · rw [hindex]
    exact hrule
  · exact (Pattern.finds_iff htext).2 ⟨hit.length, hlength, rfl⟩
  · intro j r stop hj hr hstop hfinds
    obtain ⟨n, hn, rfl⟩ := (Pattern.finds_iff htext).1 hfinds
    obtain rfl := hfirst j r n (hindex ▸ hj) hr hn
    exact Nat.lt_irrefl _ hstop

/-- If nothing is taken at a boundary, there is no tile. -/
theorem stuck_of_hit?_eq_none {before after : List Char} (htext : text.toList = before ++ after)
    (h : l.hit? (.between before after) = none) : l.Stuck text (Text.byteLength before) := by
  intro t ht hstart
  obtain ⟨r, hr, -, hfinds⟩ := ht.found
  rw [hstart] at hfinds
  obtain ⟨n, hn, hstop⟩ := (Pattern.finds_iff htext).1 hfinds
  obtain rfl := firstHit?_eq_none h (List.mem_of_getElem? hr) hn
  have := ht.nonempty
  rw [hstart, hstop] at this
  exact Nat.lt_irrefl _ this

end Lexer

/-- The tile that a segment is. -/
def Segment.tile (s : Segment κ) : Tile κ := ⟨s.index, s.action, s.start, s.stop⟩

/-- What the actions make of a segment is what they make of its tile. -/
theorem Segment.toList_token? {text : String} {s : Segment κ}
    (hs : s.text = Text.slice text s.start s.stop) : s.token?.toList = s.tile.tokens text := by
  unfold token? Tile.tokens tile
  rw [← hs]
  cases s.action with
  | emit kind => rfl
  | skip => rfl
  | callback decide =>
    simp only [Action.apply]
    cases decide s.text <;> rfl

/-- The offset of a diagnostic stays where it is if it is a boundary. -/
theorem Diagnostic.lexical_of_mem_boundaries {message text : String} {q : Nat}
    (h : q ∈ Text.boundaries text.toList) :
    lexical message text q = ⟨.lexical, message, text, q⟩ := by
  rw [lexical, Text.clamp_of_mem_boundaries h]

namespace Lexer

variable {l : Lexer κ} {text : String}

/-- A scan that cuts a text from `p` on: its segments are tiles, and it is stuck where there is no
tile. -/
structure Cuts (l : Lexer κ) (text : String) (p : Nat) (s : Scan κ) : Prop where
  tiling : l.Tiling text p (s.segments.map Segment.tile) (s.stuck.getD text.utf8ByteSize)
  text_eq : ∀ g ∈ s.segments, g.text = Text.slice text g.start g.stop
  stuck : ∀ q ∈ s.stuck, q < text.utf8ByteSize ∧ l.Stuck text q

/-- A scan ends at the end of the text or where nothing is taken, or else it goes on behind what is
taken. So what holds of the scans that end, and holds of a scan if it holds of the one behind its
first segment, holds of the scan of the text. -/
theorem scan_induction {P : Nat → Scan κ → Prop} (l : Lexer κ) (text : String)
    (hend : P text.utf8ByteSize ⟨[], none⟩)
    (hstuck : ∀ before after, text.toList = before ++ after → after ≠ [] →
      l.hit? (.between before after) = none →
      P (Text.byteLength before) ⟨[], some (Text.byteLength before)⟩)
    (hhit : ∀ before piece after (hit : Hit κ) (s : Scan κ),
      text.toList = before ++ piece ++ after → piece.length = hit.length →
      l.hit? (.between before (piece ++ after)) = some hit →
      P (Text.byteLength before + Text.byteLength piece) s →
      P (Text.byteLength before)
        ⟨⟨hit.index, hit.rule.action, Text.byteLength before, String.ofList piece⟩ :: s.segments,
          s.stuck⟩) :
    P 0 (l.scan text) := by
  suffices h : ∀ start p before, text.toList = before ++ p.rest → p = .between before p.rest →
      start = Text.byteLength before → P start (l.scanFrom start p) from
    h 0 (.start text.toList) [] rfl rfl rfl
  intro start p before htext hp hstart
  fun_induction l.scanFrom start p generalizing before with
  | case1 start p hrest =>
    have hsize := Text.utf8ByteSize_eq htext
    rw [hrest, Text.byteLength_nil, Nat.add_zero, ← hstart] at hsize
    rw [← hsize]
    exact hend
  | case2 start p hrest hhit =>
    rw [hp] at hhit
    subst hstart
    exact hstuck before p.rest htext hrest hhit
  | case3 start p hrest hit htaken piece rest =>
    rename_i ih
    subst hstart
    obtain ⟨-, -, -, hpreferred, -⟩ := firstHit?_eq_some htaken
    have hlength : piece.length = hit.length :=
      List.length_take_of_le (Pattern.le_of_preferred? hpreferred)
    have hpiece : piece ++ p.rest.drop hit.length = p.rest := List.take_append_drop _ _
    have htext' : text.toList = before ++ piece ++ p.rest.drop hit.length := by
      rw [List.append_assoc, hpiece, htext]
    have hskip : p.skip hit.length = .between (before ++ piece) (p.rest.drop hit.length) := by
      rw [← hlength, ← Place.skip_length, hlength, hpiece, ← hp]
    rw [hp, ← hpiece] at htaken
    refine hhit before piece _ hit rest htext' hlength htaken ?_
    -- behind the piece, what has been cut is `before` and the piece
    refine ih (before ++ piece) ?_ ?_ (Text.byteLength_append before piece).symm
    · rw [Place.rest_skip]
      exact htext'
    · rw [Place.rest_skip]
      exact hskip

/-- The scan of a text cuts it. -/
theorem cuts_scan (l : Lexer κ) (text : String) : l.Cuts text 0 (l.scan text) := by
  refine l.scan_induction text ?_ ?_ ?_
  · exact ⟨.nil _, fun g hg => absurd hg List.not_mem_nil,
      fun q hq => absurd hq (Option.not_mem_none q)⟩
  · intro before after htext hafter hhit
    refine ⟨.nil _, fun g hg => absurd hg List.not_mem_nil, ?_⟩
    intro q hq
    obtain rfl := Option.some.inj hq
    exact ⟨Text.byteLength_lt_utf8ByteSize htext hafter, stuck_of_hit?_eq_none htext hhit⟩
  · intro before piece after hit s htext hlength hhit hcuts
    have hpiece : (piece ++ after).take hit.length = piece := by
      rw [← hlength, List.take_left]
    have htile : Segment.tile ⟨hit.index, hit.rule.action, Text.byteLength before,
        String.ofList piece⟩ = ⟨hit.index, hit.rule.action, Text.byteLength before,
          Text.byteLength before + Text.byteLength piece⟩ := by
      rw [Segment.tile, Segment.stop, String.toList_ofList]
    refine ⟨?_, ?_, hcuts.stuck⟩
    · rw [List.append_assoc] at htext
      have hisTile := isTile_of_hit? htext hhit
      rw [hpiece] at hisTile
      rw [List.map_cons, htile]
      exact .cons hisTile hcuts.tiling
    · intro g hg
      obtain rfl | hg := List.mem_cons.1 hg
      · rw [Segment.stop, String.toList_ofList, Text.slice_eq htext]
      · exact hcuts.text_eq g hg

/-- The tokens of a scan are what the actions make of its tiles. -/
theorem Cuts.tokens_eq {p : Nat} {s : Scan κ} (h : l.Cuts text p s) :
    s.tokens = (s.segments.map Segment.tile).flatMap (Tile.tokens text) := by
  rw [Scan.tokens, List.filterMap_eq_flatMap_toList, List.flatMap_map]
  exact List.flatMap_congr fun g hg => Segment.toList_token? (h.text_eq g hg)

/-- A scan ends where there is no tile. -/
theorem Cuts.stuck_stop {p : Nat} {s : Scan κ} (h : l.Cuts text p s) :
    l.Stuck text (s.stuck.getD text.utf8ByteSize) := by
  cases hstuck : s.stuck with
  | none => exact stuck_utf8ByteSize l text
  | some q => exact (h.stuck q hstuck).2

/-- **The tiling of a text**: tiles can be laid until there is none, and in one way only. -/
theorem existsUnique_tiling (l : Lexer κ) (text : String) :
    ∃! m : List (Tile κ) × Nat, l.Tiling text 0 m.1 m.2 ∧ l.Stuck text m.2 := by
  have hcuts := cuts_scan l text
  refine ⟨⟨_, _⟩, ⟨hcuts.tiling, hcuts.stuck_stop⟩, ?_⟩
  rintro ⟨tiles, p⟩ ⟨htiling, hp⟩
  obtain ⟨rfl, rfl⟩ := htiling.eq_of_stuck hp hcuts.tiling hcuts.stuck_stop
  rfl

/-- Either tiles cover a text, or they end before it does. -/
theorem lex_cases (l : Lexer κ) (text : String) :
    (∃ tiles, l.Tiling text 0 tiles text.utf8ByteSize ∧
      l.lex text = .ok (tiles.flatMap (Tile.tokens text))) ∨
    ∃ tiles p, l.Tiling text 0 tiles p ∧ p < text.utf8ByteSize ∧ l.Stuck text p ∧
      l.lex text = .error ⟨.lexical, Diagnostic.invalidCharacter, text, p⟩ := by
  have hcuts := cuts_scan l text
  have htiling := hcuts.tiling
  cases hstuck : (l.scan text).stuck with
  | none =>
    rw [hstuck, Option.getD_none] at htiling
    refine .inl ⟨_, htiling, ?_⟩
    rw [lex, Scan.result, hstuck, hcuts.tokens_eq]
  | some q =>
    rw [hstuck, Option.getD_some] at htiling
    obtain ⟨hlt, hq⟩ := hcuts.stuck q hstuck
    refine .inr ⟨_, q, htiling, hlt, hq, ?_⟩
    have hboundary := htiling.mem_boundaries (Text.zero_mem_boundaries _)
    rw [← Diagnostic.lexical_of_mem_boundaries hboundary, lex, Scan.result, hstuck]

/-- If tiles cover a text, its tokens are what the actions make of them. -/
theorem lex_of_tiling {tiles : List (Tile κ)} (h : l.Tiling text 0 tiles text.utf8ByteSize) :
    l.lex text = .ok (tiles.flatMap (Tile.tokens text)) := by
  have hend := stuck_utf8ByteSize l text
  obtain ⟨tiles', htiling, hlex⟩ | ⟨tiles', p, htiling, hlt, hp, -⟩ := lex_cases l text
  · obtain ⟨rfl, -⟩ := h.eq_of_stuck hend htiling hend
    exact hlex
  · obtain ⟨-, rfl⟩ := h.eq_of_stuck hend htiling hp
    exact absurd hlt (Nat.lt_irrefl _)

/-- If tiles end before a text does, the diagnostic points to where they end. -/
theorem lex_of_stuck {tiles : List (Tile κ)} {p : Nat} (h : l.Tiling text 0 tiles p)
    (hlt : p < text.utf8ByteSize) (hp : l.Stuck text p) :
    l.lex text = .error ⟨.lexical, Diagnostic.invalidCharacter, text, p⟩ := by
  obtain ⟨tiles', htiling, -⟩ | ⟨tiles', q, htiling, -, hq, hlex⟩ := lex_cases l text
  · obtain ⟨-, rfl⟩ := h.eq_of_stuck hp htiling (stuck_utf8ByteSize l text)
    exact absurd hlt (Nat.lt_irrefl _)
  · obtain ⟨-, rfl⟩ := h.eq_of_stuck hp htiling hq
    exact hlex

/-- **Lexing is tiling by the first rule.** A text has tokens if tiles cover it, and they are what
the actions make of the tiles, in order. Otherwise the diagnostic points to where the tiles end,
which is a boundary before the end of the text, and so it is not moved. Tiles can be laid until
there is none, and in one way only. -/
theorem lex_iff_tiling (l : Lexer κ) (text : String) :
    (∀ tokens, l.lex text = .ok tokens ↔
      ∃ tiles, l.Tiling text 0 tiles text.utf8ByteSize ∧
        tokens = tiles.flatMap (Tile.tokens text)) ∧
    (∀ d, l.lex text = .error d ↔
      ∃ tiles p, l.Tiling text 0 tiles p ∧ p < text.utf8ByteSize ∧ l.Stuck text p ∧
        p ∈ Text.boundaries text.toList ∧ Text.clamp text.toList p = p ∧
        d = ⟨.lexical, "Invalid character", text, p⟩) ∧
    (∃! m : List (Tile κ) × Nat, l.Tiling text 0 m.1 m.2 ∧ l.Stuck text m.2) ∧
    l.Stuck text text.utf8ByteSize := by
  refine ⟨fun tokens => ⟨?_, ?_⟩, fun d => ⟨?_, ?_⟩, existsUnique_tiling l text,
    stuck_utf8ByteSize l text⟩
  · intro h
    obtain ⟨tiles, htiling, hlex⟩ | ⟨_, _, -, -, -, hlex⟩ := lex_cases l text
    · rw [h] at hlex
      exact ⟨tiles, htiling, Except.ok.inj hlex⟩
    · rw [h] at hlex
      cases hlex
  · rintro ⟨tiles, htiling, rfl⟩
    exact lex_of_tiling htiling
  · intro h
    obtain ⟨_, -, hlex⟩ | ⟨tiles, p, htiling, hlt, hp, hlex⟩ := lex_cases l text
    · rw [h] at hlex
      cases hlex
    · rw [h] at hlex
      have hboundary := htiling.mem_boundaries (Text.zero_mem_boundaries _)
      exact ⟨tiles, p, htiling, hlt, hp, hboundary, Text.clamp_of_mem_boundaries hboundary,
        Except.error.inj hlex⟩
  · rintro ⟨tiles, p, htiling, hlt, hp, -, -, rfl⟩
    exact lex_of_stuck htiling hlt hp

end Lexer

end Descent
