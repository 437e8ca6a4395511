import Descent.Proofs.Lexer.Stretches
import Descent.Proofs.Lexicon.Compiling

/-!
# One more rule

A rule that is added behind all others has its say only where the others have nothing to say. So the
tiles that could be laid without it are still there (`Lexer.Tiling.extend`), and since tiles can be
laid in one way only, the others come behind them (`Lexer.Tiling.exists_rest`). Where the tiles
ended without the rule they go on with it if it finds something there (`Lexer.stuck_append_iff`).
-/

namespace Descent

variable {κ : Type}

namespace Lexer

variable {l l' : Lexer κ} {more : List (CompiledRule κ)} {text : String}

/-! ## Tiles are kept -/

/-- A tile is a tile if there are more rules, for they come later. -/
theorem IsTile.extend (hrules : l'.rules = l.rules ++ more) {t : Tile κ} (ht : l.IsTile text t) :
    l'.IsTile text t := by
  obtain ⟨r, hr, haction, hfinds⟩ := ht.found
  have hlt : t.index < l.rules.length := (List.getElem?_eq_some_iff.1 hr).1
  refine ⟨⟨r, ?_, haction, hfinds⟩, ht.nonempty, ?_⟩
  · rw [hrules, List.getElem?_append_left hlt]
    exact hr
  · intro j s stop hj hs
    rw [hrules, List.getElem?_append_left (hj.trans hlt)] at hs
    exact ht.first j s stop hj hs

theorem Tiling.extend (hrules : l'.rules = l.rules ++ more) {p q : Nat} {tiles : List (Tile κ)}
    (h : l.Tiling text p tiles q) : l'.Tiling text p tiles q := by
  induction h with
  | nil p => exact .nil p
  | cons head _ ih => exact .cons (head.extend hrules) ih

theorem Tiling.le {p q : Nat} {tiles : List (Tile κ)} (h : l.Tiling text p tiles q) : p ≤ q := by
  induction h with
  | nil => exact Nat.le_refl _
  | cons head _ ih => exact head.nonempty.le.trans ih

/-! ## Where tiles end -/

/-- There is no tile at a place if and only if no rule finds anything there that is not empty. -/
theorem stuck_iff {p : Nat} :
    l.Stuck text p ↔ ∀ r ∈ l.rules, ∀ stop, p < stop → ¬ r.pattern.Finds text p stop := by
  constructor
  · intro h
    -- a rule before which no other finds anything would have a tile
    have hrules : ∀ (j : Nat) (r : CompiledRule κ), l.rules[j]? = some r → ∀ stop, p < stop →
        ¬ r.pattern.Finds text p stop := by
      intro j
      induction j using Nat.strong_induction_on with
      | h j ih =>
        intro r hr stop hstop hfinds
        have htile : l.IsTile text ⟨j, r.action, p, stop⟩ :=
          ⟨⟨r, hr, rfl, hfinds⟩, hstop, fun i s stop' hi hs => ih i hi s hs stop'⟩
        exact h _ htile rfl
    intro r hr
    obtain ⟨j, hj⟩ := List.getElem?_of_mem hr
    exact hrules j r hj
  · rintro h t ht rfl
    obtain ⟨r, hr, -, hfinds⟩ := ht.found
    exact h r (List.mem_of_getElem? hr) t.stop ht.nonempty hfinds

/-- Where tiles ended, they end with one more rule if and only if it finds nothing there. -/
theorem stuck_append_iff {r : CompiledRule κ} (hrules : l'.rules = l.rules ++ [r]) {p : Nat}
    (hp : l.Stuck text p) :
    l'.Stuck text p ↔ ∀ stop, p < stop → ¬ r.pattern.Finds text p stop := by
  rw [stuck_iff, hrules, List.forall_mem_append, List.forall_mem_singleton]
  exact and_iff_right (stuck_iff.1 hp)

end Lexer

/-! ## Segments -/

/-- The segment that a tile is. -/
def Tile.segment (text : String) (t : Tile κ) : Segment κ :=
  ⟨t.index, t.action, t.start, Text.slice text t.start t.stop⟩

/-- Segments that were cut off a text can be told from their tiles. -/
theorem Segment.map_segment_tile {text : String} {segments : List (Segment κ)}
    (h : ∀ g ∈ segments, g.text = Text.slice text g.start g.stop) :
    (segments.map tile).map (Tile.segment text) = segments := by
  rw [List.map_map]
  refine (List.map_congr_left fun g hg => ?_).trans segments.map_id
  rw [Function.comp_apply, Tile.segment, tile, ← h g hg, id]

namespace Lexer

variable {l l' : Lexer κ} {more : List (CompiledRule κ)} {r : CompiledRule κ} {text : String}

/-- **A scan with more rules goes on where the scan without them ended**: its segments are those of
the other, and then some. -/
theorem exists_segments_append (hrules : l'.rules = l.rules ++ more) (text : String) :
    ∃ rest, (l'.scan text).segments = (l.scan text).segments ++ rest ∧
      l'.Tiling text ((l.scan text).stuck.getD text.utf8ByteSize) (rest.map Segment.tile)
        ((l'.scan text).stuck.getD text.utf8ByteSize) := by
  have hcuts := cuts_scan l text
  have hcuts' := cuts_scan l' text
  obtain ⟨tiles, htiles, htiling⟩ :=
    (hcuts.tiling.extend hrules).exists_rest hcuts'.tiling hcuts'.stuck_stop
  obtain ⟨first, rest, hsegments, hfirst, rfl⟩ := List.map_eq_append_iff.1 htiles
  refine ⟨rest, ?_, htiling⟩
  have htext : ∀ g ∈ first, g.text = Text.slice text g.start g.stop := fun g hg =>
    hcuts'.text_eq g (hsegments ▸ List.mem_append_left rest hg)
  rw [hsegments, ← Segment.map_segment_tile htext, hfirst, Segment.map_segment_tile hcuts.text_eq]

/-- Tokens stay as they are if there are more rules. -/
theorem lex_append_of_ok (hrules : l'.rules = l.rules ++ more) {tokens : List (Token κ)}
    (h : l.lex text = .ok tokens) : l'.lex text = .ok tokens := by
  obtain ⟨tiles, htiling, hlex⟩ | ⟨_, _, -, -, -, hlex⟩ := lex_cases l text
  · rw [← h, hlex]
    exact lex_of_tiling (htiling.extend hrules)
  · rw [hlex] at h
    cases h

/-- With more rules a text fails no earlier. -/
theorem lex_append_of_error (hrules : l'.rules = l.rules ++ more) {d d' : Diagnostic}
    (h : l.lex text = .error d) (h' : l'.lex text = .error d') :
    d.offset ≤ d'.offset ∧ (d'.offset = d.offset → d' = d) := by
  obtain ⟨q, hstuck, -, rfl⟩ := exists_stuck_of_lex_error h
  obtain ⟨q', hstuck', -, rfl⟩ := exists_stuck_of_lex_error h'
  obtain ⟨rest, -, hrest⟩ := exists_segments_append hrules text
  rw [hstuck, hstuck'] at hrest
  refine ⟨hrest.le, ?_⟩
  rintro rfl
  rfl

/-- With one more rule a text fails where it failed if and only if the rule finds nothing there. -/
theorem lex_append_eq_error_iff (hrules : l'.rules = l.rules ++ [r]) {d : Diagnostic}
    (h : l.lex text = .error d) :
    l'.lex text = .error d ↔ ∀ stop, d.offset < stop → ¬ r.pattern.Finds text d.offset stop := by
  obtain ⟨q, hstuck, -, rfl⟩ := exists_stuck_of_lex_error h
  have hcuts := cuts_scan l text
  obtain ⟨hlt, hq⟩ := hcuts.stuck q hstuck
  have htiling := hcuts.tiling
  rw [hstuck, Option.getD_some] at htiling
  rw [← stuck_append_iff hrules hq]
  constructor
  · intro h'
    obtain ⟨q', hstuck', -, hd⟩ := exists_stuck_of_lex_error h'
    obtain rfl : q = q' := congrArg Diagnostic.offset hd
    exact ((cuts_scan l' text).stuck q hstuck').2
  · exact lex_of_stuck (htiling.extend hrules) hlt

end Lexer

/-- A lexicon with one more rule is compiled to a lexer with one more rule. -/
theorem Lexicon.exists_rules_append {a : Lexicon κ} {r : Rule κ} {l l' : Lexer κ}
    (hl : a.compile = .ok l) (hl' : (a.rule r.pattern r.action).compile = .ok l') :
    ∃ compiled, r.CompilesTo a.ignoreCase compiled ∧ l'.rules = l.rules ++ [compiled] := by
  obtain ⟨-, hrules⟩ := compile_eq_ok_iff.1 hl
  obtain ⟨-, hrules'⟩ := compile_eq_ok_iff.1 hl'
  obtain ⟨-, hall⟩ := exists_compile_eq_ok_iff.1 ⟨l', hl'⟩
  obtain ⟨p, hp⟩ := hall r (List.mem_append_right a.rules List.mem_cons_self)
  have hr : r.CompilesTo a.ignoreCase ⟨p, r.action⟩ := ⟨hp, rfl⟩
  refine ⟨_, hr, ?_⟩
  have hunique : Relator.RightUnique (Rule.CompilesTo (κ := κ) a.ignoreCase) :=
    fun _ _ _ => Rule.CompilesTo.unique
  exact hunique.forall₂ hrules' (List.rel_append hrules (.cons hr .nil))

/-- **One more rule takes nothing away.** If a rule is added behind all others and both lexicons can
be compiled, then a text with tokens keeps them. A text that fails does not fail any earlier: its
segments are those that there were and others behind the place at which it failed, and it fails at
that place again if and only if the new rule finds nothing there that is not empty. -/
theorem Lexer.append_conserves {a : Lexicon κ} {r : Rule κ} {l l' : Lexer κ}
    (hl : a.compile = .ok l) (hl' : (a.rule r.pattern r.action).compile = .ok l') :
    ∃ compiled, r.CompilesTo a.ignoreCase compiled ∧ ∀ text,
      (∀ tokens, l.lex text = .ok tokens → l'.lex text = .ok tokens) ∧
      ∀ d, l.lex text = .error d →
        (∀ d', l'.lex text = .error d' →
          d.offset ≤ d'.offset ∧ (d'.offset = d.offset → d' = d)) ∧
        (∃ rest, (l'.scan text).segments = (l.scan text).segments ++ rest ∧
          Text.Covers 0 d.offset ((l.scan text).segments.map Segment.stretch) ∧
          ∀ g ∈ rest, d.offset ≤ g.start) ∧
        (l'.lex text = .error d ↔
          ∀ stop, d.offset < stop → ¬ compiled.pattern.Finds text d.offset stop) := by
  obtain ⟨compiled, hcompiled, hrules⟩ := Lexicon.exists_rules_append hl hl'
  refine ⟨compiled, hcompiled, fun text => ⟨?_, ?_⟩⟩
  · exact fun tokens => lex_append_of_ok hrules
  · intro d h
    refine ⟨fun d' => lex_append_of_error hrules h, ?_, lex_append_eq_error_iff hrules h⟩
    obtain ⟨q, hstuck, -, rfl⟩ := exists_stuck_of_lex_error h
    obtain ⟨rest, hsegments, hrest⟩ := exists_segments_append hrules text
    have hcovers := (cuts_scan l text).covers
    rw [hstuck, Option.getD_some] at hrest hcovers
    refine ⟨rest, hsegments, hcovers, ?_⟩
    intro g hg
    exact hrest.covers.le g.stretch (List.mem_map_of_mem hg)

/-- A rule for a second letter: a text of the first letter has the tokens that it had, and the rule
finds something where a text of both letters failed, since that text does not fail any more. -/
theorem Lexer.append_conserves_letters :
    let a : Lexicon Nat := ⟨[⟨"a", .emit 0⟩], false⟩
    let r : Rule Nat := ⟨"b", .emit 1⟩
    ∃ l l' compiled, a.compile = .ok l ∧ (a.rule r.pattern r.action).compile = .ok l' ∧
      r.CompilesTo false compiled ∧ (∃ tokens, l.lex "a" = .ok tokens ∧ l'.lex "a" = .ok tokens) ∧
      ∃ d, l.lex "ab" = .error d ∧ d.offset = 1 ∧
        ∃ stop, 1 < stop ∧ compiled.pattern.Finds "ab" 1 stop := by
  intro a r
  have hstuck : a.compile.toOption.map (fun l => ((l.scan "a").stuck, (l.scan "ab").stuck)) =
      some (none, some 1) := by decide +kernel
  have hstuck' : (a.rule r.pattern r.action).compile.toOption.map (fun l => (l.scan "ab").stuck) =
      some none := by decide +kernel
  obtain ⟨l, hl, hstuck⟩ := Option.map_eq_some_iff.1 hstuck
  obtain ⟨l', hl', hstuck'⟩ := Option.map_eq_some_iff.1 hstuck'
  rw [toOption_eq_some_iff] at hl hl'
  obtain ⟨hone, htwo⟩ := Prod.mk.inj hstuck
  have hlex : l.lex "a" = .ok (l.scan "a").tokens := by rw [Lexer.lex, Scan.result, hone]
  have hfails : l.lex "ab" = .error (.lexical Diagnostic.invalidCharacter "ab" 1) := by
    rw [Lexer.lex, Scan.result, htwo]
  have hlex' : l'.lex "ab" = .ok (l'.scan "ab").tokens := by rw [Lexer.lex, Scan.result, hstuck']
  obtain ⟨compiled, hcompiled, hconserves⟩ := append_conserves hl hl'
  obtain ⟨-, hfailing⟩ := hconserves "ab"
  obtain ⟨-, -, hagain⟩ := hfailing _ hfails
  obtain ⟨hkept, -⟩ := hconserves "a"
  refine ⟨l, l', compiled, hl, hl', hcompiled, ⟨_, hlex, hkept _ hlex⟩, _, hfails, rfl, ?_⟩
  by_contra hnothing
  have hagain := hagain.2 fun stop hstop hfinds => hnothing ⟨stop, hstop, hfinds⟩
  rw [hlex'] at hagain
  cases hagain

end Descent
