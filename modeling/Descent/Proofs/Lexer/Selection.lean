import Mathlib.Data.Nat.Find
import Descent.Proofs.Lexer.Tiling
import Descent.Proofs.Lexicon.Compiling
import Descent.Proofs.Pattern.Counts
import Descent.Proofs.Pattern.Matching

/-!
# Which rule is chosen

At each place the first rule ought to be chosen whose pattern matches some text there that is not
empty. What is chosen is the first rule whose *preferred* match there is not empty, and this is not
always the same: a pattern like `|a` matches a letter and yet prefers the empty text. The first rule
that could take something may so be passed over, for a later one or for none
(`Lexer.lex_stops_at_empty_alternative`).

The two rules part nowhere else (`Lexer.chooses_first_iff`). What a pattern prefers is something it
matches, and where it matches anything there is something it prefers. So a rule that is chosen can
take something, and each earlier rule that could take something as well prefers the empty text.
-/

namespace Descent

open Text (Place)

/-! ## Patterns -/

namespace Pattern

variable {ignoreCase : Bool} {source : String} {pattern : Pattern}

/-- A compiled pattern matches what its syntax says. -/
theorem exists_ast_of_compile (h : compile ignoreCase source = .ok pattern) :
    ∃ ast, Ast.read source.toList = .ok ast ∧
      pattern.expr.language pattern.sites = ast.language (.initial ignoreCase) := by
  obtain ⟨form, hform, h⟩ := bind_eq_ok_iff.1 h
  obtain rfl := Except.ok.inj h
  obtain ⟨ast, hread, hform⟩ := bind_eq_ok_iff.1 hform
  obtain ⟨⟨g, f⟩, hg, hform⟩ := bind_eq_ok_iff.1 hform
  obtain rfl := Except.ok.inj hform
  obtain ⟨hdenotes, -⟩ := ast.form_denotes (Ast.counted_of_read hread) hg
  exact ⟨ast, hread, (g.language_expr (.all g.sets)).trans hdenotes.language_eq⟩

theorem Finds.le {text : String} {start stop : Nat} (h : pattern.Finds text start stop) :
    start ≤ stop := by
  obtain ⟨before, piece, after, -, -, rfl, -⟩ := h
  exact Nat.le_add_right start _

end Pattern

/-! ## Rules -/

variable {κ : Type}

/-- The pattern of the rule matches the text from `start` to `stop`, which it need not prefer. -/
def Rule.Matches (ignoreCase : Bool) (r : Rule κ) (text : String) (start stop : Nat) : Prop :=
  ∃ (ast : Pattern.Ast) (before piece after : List Char),
    Pattern.Ast.read r.pattern.toList = .ok ast ∧ text.toList = before ++ (piece ++ after) ∧
    Text.byteLength before = start ∧ start + Text.byteLength piece = stop ∧
    ast.language (.initial ignoreCase) (.between before (piece ++ after))
      (.between (before ++ piece) after)

namespace Rule

variable {ignoreCase : Bool} {r : Rule κ} {c : CompiledRule κ} {text : String} {start stop : Nat}

/-- What the pattern of a rule finds, it matches. -/
theorem Matches.of_finds (hc : r.CompilesTo ignoreCase c) (h : c.pattern.Finds text start stop) :
    r.Matches ignoreCase text start stop := by
  obtain ⟨before, piece, after, htext, hstart, hstop, hn⟩ := h
  obtain ⟨ast, hread, hlanguage⟩ := Pattern.exists_ast_of_compile hc.pattern
  refine ⟨ast, before, piece, after, hread, htext, hstart, hstop, ?_⟩
  rw [← hlanguage, ← Place.skip_length]
  exact Pattern.Expr.language_of_preferred? hn

/-- Where the pattern of a rule matches a text, it finds one. -/
theorem Matches.exists_finds (hc : r.CompilesTo ignoreCase c)
    (h : r.Matches ignoreCase text start stop) : ∃ stop', c.pattern.Finds text start stop' := by
  obtain ⟨ast, before, piece, after, hread, htext, rfl, -, hmatch⟩ := h
  obtain ⟨ast', hread', hlanguage⟩ := Pattern.exists_ast_of_compile hc.pattern
  obtain rfl := Except.ok.inj (hread.symm.trans hread')
  rw [← hlanguage] at hmatch
  obtain ⟨n, hn⟩ := Pattern.Expr.exists_preferred? hmatch
  exact ⟨_, (Pattern.finds_iff htext).2 ⟨n, hn, rfl⟩⟩

end Rule

/-! ## Choices -/

namespace Lexicon

/-- The rule with the number `i` matches some text at `start` that is not empty. -/
def Offers (x : Lexicon κ) (text : String) (start i : Nat) : Prop :=
  ∃ r stop, x.rules[i]? = some r ∧ start < stop ∧ r.Matches x.ignoreCase text start stop

/-- The rule with the number `i` is the first that matches some text at `start` that is not
empty. -/
def OffersFirst (x : Lexicon κ) (text : String) (start i : Nat) : Prop :=
  x.Offers text start i ∧ ∀ j < i, ¬ x.Offers text start j

end Lexicon

namespace Lexer

/-- The rule with the number `i` is chosen at `start`. -/
def Chooses (l : Lexer κ) (text : String) (start i : Nat) : Prop :=
  ∃ before after hit, text.toList = before ++ after ∧ Text.byteLength before = start ∧
    l.hit? (.between before after) = some hit ∧ hit.index = i

/-- The rule with the number `i` prefers some text at `start` that is not empty. -/
def Prefers (l : Lexer κ) (text : String) (start i : Nat) : Prop :=
  ∃ c stop, l.rules[i]? = some c ∧ start < stop ∧ c.pattern.Finds text start stop

/-- The rule with the number `i` prefers the empty text at `start`. -/
def PrefersNothing (l : Lexer κ) (text : String) (start i : Nat) : Prop :=
  ∃ c, l.rules[i]? = some c ∧ c.pattern.Finds text start start

variable {x : Lexicon κ} {l : Lexer κ} {text : String} {start i j : Nat}

/-- A rule that prefers something does not prefer nothing. -/
theorem Prefers.not_prefersNothing (h : l.Prefers text start i) :
    ¬ l.PrefersNothing text start i := by
  obtain ⟨c, stop, hc, hlt, hfinds⟩ := h
  rintro ⟨c', hc', hnothing⟩
  obtain rfl := Option.some.inj (hc.symm.trans hc')
  exact absurd (hfinds.stop_eq hnothing) (Nat.ne_of_gt hlt)

/-- If there is one at all, there is a first one. -/
theorem exists_first {P : Nat → Prop} (h : P i) : ∃ k ≤ i, P k ∧ ∀ j < k, ¬ P j := by
  classical
  exact ⟨Nat.find ⟨i, h⟩, Nat.find_min' _ h, Nat.find_spec ⟨i, h⟩, fun _ => Nat.find_min _⟩

/-- The rule that is chosen is the first that prefers something. -/
theorem Chooses.prefers (h : l.Chooses text start i) :
    l.Prefers text start i ∧ ∀ j < i, ¬ l.Prefers text start j := by
  obtain ⟨before, after, hit, htext, rfl, hhit, rfl⟩ := h
  have htile := isTile_of_hit? htext hhit
  obtain ⟨c, hc, -, hfinds⟩ := htile.found
  refine ⟨⟨c, _, hc, htile.nonempty, hfinds⟩, ?_⟩
  rintro j hj ⟨c', stop, hc', hlt, hfinds'⟩
  exact htile.first j c' stop hj hc' hlt hfinds'

/-- Where a rule prefers something, a rule is chosen. -/
theorem Prefers.exists_chooses (h : l.Prefers text start i) : ∃ k, l.Chooses text start k := by
  obtain ⟨c, stop, hc, hlt, before, piece, after, htext, rfl, rfl, hn⟩ := h
  cases hhit : l.hit? (.between before (piece ++ after)) with
  | some hit => exact ⟨hit.index, before, piece ++ after, hit, htext, rfl, hhit, rfl⟩
  | none =>
    have hzero := firstHit?_eq_none hhit (List.mem_of_getElem? hc) hn
    rw [List.length_eq_zero_iff.1 hzero] at hlt
    exact absurd hlt (Nat.lt_irrefl _)

theorem chooses_iff : l.Chooses text start i ↔
    l.Prefers text start i ∧ ∀ j < i, ¬ l.Prefers text start j := by
  refine ⟨Chooses.prefers, fun ⟨hi, hfirst⟩ => ?_⟩
  obtain ⟨k, hk⟩ := hi.exists_chooses
  obtain ⟨hprefers, hnone⟩ := hk.prefers
  obtain hlt | rfl | hgt := Nat.lt_trichotomy k i
  · exact absurd hprefers (hfirst k hlt)
  · exact hk
  · exact absurd hi (hnone i hgt)

section Compiled

variable (h : x.compile = .ok l)

include h

theorem exists_compiled {r : Rule κ} (hr : x.rules[i]? = some r) :
    ∃ c, l.rules[i]? = some c ∧ r.CompilesTo x.ignoreCase c := by
  obtain ⟨-, hrules⟩ := Lexicon.compile_eq_ok_iff.1 h
  obtain ⟨hi, rfl⟩ := List.getElem?_eq_some_iff.1 hr
  have hi' : i < l.rules.length := hrules.length_eq ▸ hi
  exact ⟨_, List.getElem?_eq_getElem hi', hrules.get hi hi'⟩

theorem exists_rule {c : CompiledRule κ} (hc : l.rules[i]? = some c) :
    ∃ r, x.rules[i]? = some r ∧ r.CompilesTo x.ignoreCase c := by
  obtain ⟨-, hrules⟩ := Lexicon.compile_eq_ok_iff.1 h
  obtain ⟨hi', rfl⟩ := List.getElem?_eq_some_iff.1 hc
  have hi : i < x.rules.length := hrules.length_eq.symm ▸ hi'
  exact ⟨_, List.getElem?_eq_getElem hi, hrules.get hi hi'⟩

/-- What a rule prefers, it matches. -/
theorem Prefers.offers (hi : l.Prefers text start i) : x.Offers text start i := by
  obtain ⟨c, stop, hc, hlt, hfinds⟩ := hi
  obtain ⟨r, hr, hcompiles⟩ := exists_rule h hc
  exact ⟨r, stop, hr, hlt, .of_finds hcompiles hfinds⟩

/-- The empty text that a rule prefers, it matches. -/
theorem PrefersNothing.matches_empty (hi : l.PrefersNothing text start i) :
    ∃ r, x.rules[i]? = some r ∧ r.Matches x.ignoreCase text start start := by
  obtain ⟨c, hc, hfinds⟩ := hi
  obtain ⟨r, hr, hcompiles⟩ := exists_rule h hc
  exact ⟨r, hr, .of_finds hcompiles hfinds⟩

/-- A rule that matches something prefers something, or it prefers the empty text. -/
theorem prefers_or_prefersNothing (hi : x.Offers text start i) :
    l.Prefers text start i ∨ l.PrefersNothing text start i := by
  obtain ⟨r, stop, hr, -, hmatch⟩ := hi
  obtain ⟨c, hc, hcompiles⟩ := exists_compiled h hr
  obtain ⟨stop', hfinds⟩ := hmatch.exists_finds hcompiles
  obtain hlt | heq := Nat.lt_or_eq_of_le hfinds.le
  · exact .inl ⟨c, stop', hc, hlt, hfinds⟩
  · exact .inr ⟨c, hc, heq ▸ hfinds⟩

/-- A rule that is passed over prefers the empty text. -/
theorem prefersNothing_of_not_prefers (hi : x.Offers text start i)
    (hnot : ¬ l.Prefers text start i) : l.PrefersNothing text start i :=
  (prefers_or_prefersNothing h hi).resolve_left hnot

/-- If the first rule that could take something prefers something, it is chosen. -/
theorem chooses_of_offersFirst (hi : x.OffersFirst text start i)
    (hsome : ¬ l.PrefersNothing text start i) : l.Chooses text start i := by
  have hprefers := (prefers_or_prefersNothing h hi.1).resolve_right hsome
  exact chooses_iff.2 ⟨hprefers, fun j hj hj' => hi.2 j hj (hj'.offers h)⟩

/-- **The first rule that could take something is the one that is chosen, unless it prefers the
empty text.** -/
theorem chooses_iff_offersFirst :
    (∀ i, l.Chooses text start i ↔ x.OffersFirst text start i) ↔
      ∀ i, x.OffersFirst text start i → ¬ l.PrefersNothing text start i := by
  refine ⟨fun hsame i hi => ((hsame i).2 hi).prefers.1.not_prefersNothing, fun hsome i => ?_⟩
  refine ⟨fun hchosen => ?_, fun hi => chooses_of_offersFirst h hi (hsome i hi)⟩
  obtain ⟨hprefers, hfirst⟩ := hchosen.prefers
  -- the first rule that could take something is chosen as well, so it is this one
  obtain ⟨k, hle, hk, hnone⟩ := exists_first (hprefers.offers h)
  obtain ⟨hprefers', -⟩ := (chooses_of_offersFirst h ⟨hk, hnone⟩ (hsome k ⟨hk, hnone⟩)).prefers
  obtain hlt | rfl := Nat.lt_or_eq_of_le hle
  · exact absurd hprefers' (hfirst k hlt)
  · exact ⟨hk, hnone⟩

/-- Where lexing fails, each rule that could take something prefers the empty text. -/
theorem prefersNothing_of_lex_error {d : Diagnostic} (hlex : l.lex text = .error d)
    (hi : x.Offers text d.offset i) : l.PrefersNothing text d.offset i := by
  refine prefersNothing_of_not_prefers h hi fun hprefers => ?_
  obtain ⟨k, before, after, hit, htext, hstart, hhit, -⟩ := hprefers.exists_chooses
  obtain ⟨_, -, hok⟩ | ⟨_, p, -, -, hstuck, herror⟩ := lex_cases l text
  · rw [hlex] at hok
    cases hok
  · rw [hlex] at herror
    obtain rfl := Except.error.inj herror
    exact hstuck _ (isTile_of_hit? htext hhit) hstart

/-- **Which rule is chosen.** -/
theorem chooses_first_iff (text : String) (start : Nat) :
    ((∀ i, l.Chooses text start i ↔ x.OffersFirst text start i) ↔
      ∀ i, x.OffersFirst text start i → ¬ l.PrefersNothing text start i) ∧
    (∀ i, l.Chooses text start i → x.Offers text start i ∧
      ∀ j < i, x.Offers text start j → l.PrefersNothing text start j) ∧
    (∀ d, l.lex text = .error d →
      ∀ i, x.Offers text d.offset i → l.PrefersNothing text d.offset i) ∧
    ∀ i, l.PrefersNothing text start i →
      ∃ r, x.rules[i]? = some r ∧ r.Matches x.ignoreCase text start start := by
  refine ⟨chooses_iff_offersFirst h, fun i hi => ?_,
    fun d hlex i => prefersNothing_of_lex_error h hlex, fun i => PrefersNothing.matches_empty h⟩
  obtain ⟨hprefers, hfirst⟩ := hi.prefers
  exact ⟨hprefers.offers h,
    fun j hj hoffers => prefersNothing_of_not_prefers h hoffers (hfirst j hj)⟩

end Compiled

/-- The pattern `|a` matches a letter. -/
theorem offersFirst_empty_alternative (action : Action κ) (rules : List (Rule κ)) :
    (⟨⟨"|a", action⟩ :: rules, false⟩ : Lexicon κ).OffersFirst "a" 0 0 := by
  have hread : Pattern.Ast.read "|a".toList = .ok (.alternation ⟨⟨1, 1⟩, ⟨1, 3⟩⟩
      [.empty ⟨⟨1, 1⟩, ⟨1, 1⟩⟩, .literal ⟨⟨⟨1, 2⟩, ⟨1, 3⟩⟩, 'a', false⟩]) := by rfl
  refine ⟨⟨_, 1, rfl, Nat.one_pos, ?_⟩, fun j hj => absurd hj (Nat.not_lt_zero j)⟩
  refine ⟨_, [], ['a'], [], hread, rfl, rfl, rfl, ?_⟩
  exact ⟨_, .tail _ (.head _), .read rfl⟩

/-- A later rule is chosen where the first one prefers the empty text. -/
theorem chooses_behind_empty_alternative :
    let x : Lexicon Nat := ⟨[⟨"|a", .emit 0⟩, ⟨"a", .emit 1⟩], false⟩
    ∃ l, x.compile = .ok l ∧ l.Chooses "a" 0 1 ∧ x.OffersFirst "a" 0 0 ∧
      l.PrefersNothing "a" 0 0 ∧ ¬ ∀ i, l.Chooses "a" 0 i ↔ x.OffersFirst "a" 0 i := by
  intro x
  have hcompile : x.compile.toOption.map (fun l => (l.hit? (.between [] ['a'])).map Hit.index) =
      some (some 1) := by decide +kernel
  obtain ⟨l, hl, hindex⟩ := Option.map_eq_some_iff.1 hcompile
  rw [toOption_eq_some_iff] at hl
  obtain ⟨hit, hhit, hindex⟩ := Option.map_eq_some_iff.1 hindex
  have hchosen : l.Chooses "a" 0 1 := ⟨[], ['a'], hit, rfl, rfl, hhit, hindex⟩
  have hfirst : x.OffersFirst "a" 0 0 := offersFirst_empty_alternative _ _
  obtain ⟨hiff, hpassed, -, -⟩ := chooses_first_iff hl "a" 0
  have hnothing := (hpassed 1 hchosen).2 0 Nat.one_pos hfirst.1
  exact ⟨l, hl, hchosen, hfirst, hnothing, fun hsame => hiff.1 hsame 0 hfirst hnothing⟩

/-- The first rule is passed over although it could take something, and no later one takes it: no
token is made of the letter. -/
theorem lex_stops_at_empty_alternative :
    let x : Lexicon Nat := ⟨[⟨"|a", .emit 0⟩], false⟩
    x.OffersFirst "a" 0 0 ∧
      ∃ l, x.compile = .ok l ∧ l.lex "a" = .error ⟨.lexical, "Invalid character", "a", 0⟩ := by
  intro x
  refine ⟨offersFirst_empty_alternative _ _, ?_⟩
  have hcompile : x.compile.toOption.map (fun l => (l.scan "a").stuck) = some (some 0) := by
    decide +kernel
  obtain ⟨l, hl, hstuck⟩ := Option.map_eq_some_iff.1 hcompile
  refine ⟨l, toOption_eq_some_iff.1 hl, ?_⟩
  rw [lex, Scan.result, hstuck]
  exact congrArg Except.error
    (Diagnostic.lexical_of_mem_boundaries (Text.zero_mem_boundaries "a".toList))

end Lexer

end Descent
