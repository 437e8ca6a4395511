import Descent.Proofs.Lexer.Stretches
import Descent.Proofs.Lexicon.Compiling

/-!
# Actions have no say in how a text is cut

The scan looks at the patterns of the rules and not at their actions. So two lexers whose rules have
the same patterns go through a text side by side: at each place they take the same piece by a rule
of the same number (`Lexer.firstHit?_taken_eq`), and so they come to the next place together
(`Lexer.scanFrom_alike`). The actions are asked afterwards, each about its own piece and about no
other. If an action never makes a token, the tokens of its rule are missing, and that is all.
-/

namespace Descent

variable {κ κ' : Type}

/-- A piece that was cut off a text, and the number of the rule that took it. -/
structure Piece where
  /-- the number of the rule, counted from zero -/
  index : Nat
  /-- the offset at which the piece begins -/
  start : Nat
  /-- the offset at which the piece ends -/
  stop : Nat
deriving DecidableEq

/-- The token that the rule with the piece's number makes of it. -/
def Piece.token? (rules : List (Rule κ)) (text : String) (p : Piece) : Option (Token κ) :=
  (rules[p.index]?.bind fun r => r.action.apply (Text.slice text p.start p.stop)).map
    fun (kind, value) => ⟨kind, value, p.start, p.stop⟩

/-- The piece that a segment is, whatever is to be done with it. -/
def Segment.piece (s : Segment κ) : Piece := ⟨s.index, s.start, s.stop⟩

/-- The pieces into which a scan cut a text. -/
def Scan.pieces (s : Scan κ) : List Piece := s.segments.map Segment.piece

/-! ## Side by side -/

/-- The number of the rule that takes something, and how much it takes. -/
def Hit.taken (hit : Hit κ) : Nat × Nat := (hit.index, hit.length)

/-- Two scans of one text that cut it into the same pieces and end alike. -/
structure Scan.Alike (s : Scan κ) (s' : Scan κ') : Prop where
  pieces : s.pieces = s'.pieces
  stuck : s.stuck = s'.stuck

namespace Lexer

/-- **At a place**, rules with the same patterns take the same, whatever their actions are. -/
theorem firstHit?_taken_eq {rules : List (CompiledRule κ)} {rules' : List (CompiledRule κ')}
    (h : rules.map CompiledRule.pattern = rules'.map CompiledRule.pattern) (p : Text.Place)
    (index : Nat) :
    (firstHit? p index rules).map Hit.taken = (firstHit? p index rules').map Hit.taken := by
  induction rules generalizing rules' index with
  | nil =>
    obtain rfl := List.map_eq_nil_iff.1 h.symm
    rfl
  | cons r rules ih =>
    cases rules' with
    | nil => cases h
    | cons r' rules' =>
      obtain ⟨hhead, htail⟩ := List.cons.inj h
      rw [firstHit?, firstHit?, ← hhead]
      split
      · rfl
      · exact ih htail (index + 1)

variable {l : Lexer κ} {l' : Lexer κ'}

theorem hit?_taken_eq (h : l.rules.map CompiledRule.pattern = l'.rules.map CompiledRule.pattern)
    (p : Text.Place) : (l.hit? p).map Hit.taken = (l'.hit? p).map Hit.taken :=
  firstHit?_taken_eq h p 0

/-- **From a place on**, lexers with the same patterns cut a text alike. -/
theorem scanFrom_alike (h : l.rules.map CompiledRule.pattern = l'.rules.map CompiledRule.pattern)
    (start : Nat) (p : Text.Place) : (l.scanFrom start p).Alike (l'.scanFrom start p) := by
  fun_induction l.scanFrom start p with
  | case1 start p hrest =>
    rw [scanFrom, dif_pos hrest]
    exact ⟨rfl, rfl⟩
  | case2 start p hrest hhit =>
    have htaken := hit?_taken_eq h p
    rw [hhit, Option.map_none] at htaken
    rw [scanFrom, dif_neg hrest, Option.map_eq_none_iff.1 htaken.symm]
    exact ⟨rfl, rfl⟩
  | case3 start p hrest hit hhit piece after ih =>
    have htaken := hit?_taken_eq h p
    rw [hhit, Option.map_some] at htaken
    obtain ⟨hit', hhit', heq⟩ := Option.map_eq_some_iff.1 htaken.symm
    obtain ⟨hindex, hlength⟩ := Prod.mk.inj heq
    rw [scanFrom, dif_neg hrest, hhit']
    simp only [hlength]
    -- the next place is the same for both, so that the rest of the scans is alike
    refine ⟨congrArg₂ List.cons ?_ ih.pieces, ih.stuck⟩
    rw [Segment.piece, Segment.piece, hindex]
    rfl

/-! ## Asking the actions -/

variable {rules : List (Rule κ)} {rules' : List (Rule κ')} {ignoreCase : Bool} {text : String}

/-- A segment has the action of the rule with its number. -/
theorem exists_rule_of_mem_segments
    (hrules : List.Forall₂ (Rule.CompilesTo ignoreCase) rules l.rules) {g : Segment κ}
    (hg : g ∈ (l.scan text).segments) :
    ∃ r, rules[g.index]? = some r ∧ r.action = g.action := by
  obtain ⟨c, hc, haction, -⟩ :=
    ((cuts_scan l text).tiling.isTile g.tile (List.mem_map_of_mem hg)).found
  have heq := congrArg (·[g.index]?) (Rule.map_action_eq hrules)
  simp only [List.getElem?_map] at heq
  rw [show l.rules[g.index]? = some c from hc, Option.map_some, haction] at heq
  exact Option.map_eq_some_iff.1 heq.symm

/-- The tokens of a scan are what the actions of the rules make of its pieces. -/
theorem tokens_scan (hrules : List.Forall₂ (Rule.CompilesTo ignoreCase) rules l.rules) :
    (l.scan text).tokens = (l.scan text).pieces.filterMap (Piece.token? rules text) := by
  rw [Scan.tokens, Scan.pieces, List.filterMap_map]
  apply List.filterMap_congr
  intro g hg
  obtain ⟨r, hr, haction⟩ := exists_rule_of_mem_segments hrules hg
  rw [Function.comp_apply, Segment.token?, Piece.token?, Segment.piece, hr, Option.bind_some,
    haction, (cuts_scan l text).text_eq g hg]

/-- Lexers with the same patterns fail with the same diagnostic, or each of them has the tokens that
its own rules make of the pieces that both cut. -/
theorem lex_alike (hrules : List.Forall₂ (Rule.CompilesTo ignoreCase) rules l.rules)
    (hrules' : List.Forall₂ (Rule.CompilesTo ignoreCase) rules' l'.rules)
    (hpatterns : rules.map Rule.pattern = rules'.map Rule.pattern) (text : String) :
    (l.scan text).pieces = (l'.scan text).pieces ∧
      ((∃ d, l.lex text = .error d ∧ l'.lex text = .error d) ∨
        l.lex text = .ok ((l.scan text).pieces.filterMap (Piece.token? rules text)) ∧
        l'.lex text = .ok ((l.scan text).pieces.filterMap (Piece.token? rules' text))) := by
  have halike := scanFrom_alike (Rule.map_pattern_eq hrules hrules' hpatterns) 0
    (.start text.toList)
  have hpieces : (l.scan text).pieces = (l'.scan text).pieces := halike.pieces
  have hstuck : (l.scan text).stuck = (l'.scan text).stuck := halike.stuck
  refine ⟨hpieces, ?_⟩
  rw [lex, lex, Scan.result, Scan.result, ← hstuck, tokens_scan hrules, tokens_scan hrules',
    ← hpieces]
  cases (l.scan text).stuck with
  | none => exact .inr ⟨rfl, rfl⟩
  | some q => exact .inl ⟨_, rfl, rfl⟩

end Lexer

/-! ## Actions that say nothing -/

/-- The action never makes a token. -/
def Action.Silent (a : Action κ) : Prop := ∀ text, a.apply text = none

/-- A silent action skips, or it asks and is always told to make nothing. -/
theorem Action.silent_iff {a : Action κ} :
    a.Silent ↔ a = skip ∨ ∃ decide, a = callback decide ∧ ∀ text, decide text = none := by
  cases a with
  | emit kind => simp [Silent, apply]
  | skip => simp [Silent, apply]
  | callback decide => simp [Silent, apply]

/-- The rules, with another action for the one with the number. -/
def replaceAction (rules : List (Rule κ)) (index : Nat) (a : Action κ) : List (Rule κ) :=
  rules.modify index fun r => { r with action := a }

theorem map_pattern_replaceAction (rules : List (Rule κ)) (index : Nat) (a : Action κ) :
    (replaceAction rules index a).map Rule.pattern = rules.map Rule.pattern := by
  apply List.ext_getElem?
  intro j
  rw [replaceAction, List.getElem?_map, List.getElem?_modify, List.getElem?_map,
    Option.map_eq_map, Option.map_map]
  cases rules[j]? with
  | none => rfl
  | some r =>
    rw [Option.map_some, Option.map_some, Function.comp_apply]
    split <;> rfl

/-- A rule with a silent action makes no tokens, and the others make the tokens that they made. -/
theorem Piece.token?_replaceAction {rules : List (Rule κ)} {a : Action κ} (ha : a.Silent)
    (text : String) (index : Nat) (p : Piece) :
    p.token? (replaceAction rules index a) text =
      if p.index = index then none else p.token? rules text := by
  rw [token?, token?, replaceAction, List.getElem?_modify]
  cases rules[p.index]? with
  | none => simp
  | some r =>
    by_cases h : p.index = index
    · simp [h, ha _]
    · simp [h, Ne.symm h]

/-- What is left of the tokens is what the other rules make. -/
theorem filterMap_token?_replaceAction {rules : List (Rule κ)} {a : Action κ} (ha : a.Silent)
    (text : String) (index : Nat) (pieces : List Piece) :
    pieces.filterMap (Piece.token? (replaceAction rules index a) text) =
      (pieces.filter (·.index ≠ index)).filterMap (Piece.token? rules text) := by
  rw [List.filterMap_filter]
  apply List.filterMap_congr
  intro p _
  rw [Piece.token?_replaceAction ha]
  simp

/-- **Actions have no say in how a text is cut.** Lexers whose rules have the same patterns cut any
text into the same pieces. They fail with the same diagnostic, or both have tokens, and these are
what the rules of each make of the pieces. So if a rule is given a silent action, then its tokens
are missing, and all others are there as they were. -/
theorem Lexer.actions_do_not_cut {rules : List (Rule κ)} {rules' : List (Rule κ')}
    {ignoreCase : Bool} {l : Lexer κ} {l' : Lexer κ'}
    (hl : (Lexicon.mk rules ignoreCase).compile = .ok l)
    (hl' : (Lexicon.mk rules' ignoreCase).compile = .ok l')
    (hpatterns : rules.map Rule.pattern = rules'.map Rule.pattern) :
    (∀ text, ∃ pieces,
      (l.scan text).pieces = pieces ∧ (l'.scan text).pieces = pieces ∧
      ((∃ d, l.lex text = .error d ∧ l'.lex text = .error d) ∨
        l.lex text = .ok (pieces.filterMap (Piece.token? rules text)) ∧
        l'.lex text = .ok (pieces.filterMap (Piece.token? rules' text)))) ∧
    ∀ (index : Nat) (quiet : Action κ), quiet.Silent →
      ∃ muted, (Lexicon.mk (replaceAction rules index quiet) ignoreCase).compile = .ok muted ∧
        ∀ text, ∃ pieces,
          (l.scan text).pieces = pieces ∧ (muted.scan text).pieces = pieces ∧
          ((∃ d, l.lex text = .error d ∧ muted.lex text = .error d) ∨
            l.lex text = .ok (pieces.filterMap (Piece.token? rules text)) ∧
            muted.lex text = .ok
              ((pieces.filter (·.index ≠ index)).filterMap (Piece.token? rules text))) := by
  obtain ⟨-, hrules⟩ := Lexicon.compile_eq_ok_iff.1 hl
  obtain ⟨-, hrules'⟩ := Lexicon.compile_eq_ok_iff.1 hl'
  refine ⟨?_, ?_⟩
  · intro text
    obtain ⟨hpieces, hlex⟩ := lex_alike hrules hrules' hpatterns text
    exact ⟨_, rfl, hpieces.symm, hlex⟩
  · intro index quiet hquiet
    have hmuted := map_pattern_replaceAction rules index quiet
    obtain ⟨muted, hcompile⟩ := Lexicon.exists_compile_of_patterns hmuted.symm ⟨l, hl⟩
    obtain ⟨-, hrules₂⟩ := Lexicon.compile_eq_ok_iff.1 hcompile
    refine ⟨muted, hcompile, fun text => ?_⟩
    obtain ⟨hpieces, hlex⟩ := lex_alike hrules hrules₂ hmuted.symm text
    rw [filterMap_token?_replaceAction hquiet] at hlex
    exact ⟨_, rfl, hpieces.symm, hlex⟩

/-- Two letters: one lexer makes tokens of both, another one of the second only, and so does the
first if it is to skip the first letter. -/
theorem Lexer.actions_do_not_cut_letters :
    let rules : List (Rule Nat) := [⟨"a", .emit 0⟩, ⟨"b", .emit 1⟩]
    let rules' : List (Rule Bool) := [⟨"a", .callback Callback.drop⟩, ⟨"b", .emit true⟩]
    ∃ l l' muted,
      (Lexicon.mk rules false).compile = .ok l ∧ (Lexicon.mk rules' false).compile = .ok l' ∧
      (Lexicon.mk (replaceAction rules 0 .skip) false).compile = .ok muted ∧
      l.lex "ab" = .ok [⟨0, "a", 0, 1⟩, ⟨1, "b", 1, 2⟩] ∧
      l'.lex "ab" = .ok [⟨true, "b", 1, 2⟩] ∧ muted.lex "ab" = .ok [⟨1, "b", 1, 2⟩] := by
  intro rules rules'
  have hcuts : (Lexicon.mk rules false).compile.toOption.map
      (fun l => ((l.scan "ab").pieces, (l.lex "ab").toBool)) =
        some ([⟨0, 0, 1⟩, ⟨1, 1, 2⟩], true) := by
    decide +kernel
  obtain ⟨l, hl, hcuts⟩ := Option.map_eq_some_iff.1 hcuts
  rw [toOption_eq_some_iff] at hl
  obtain ⟨hpieces, hok⟩ := Prod.mk.inj hcuts
  have hpatterns : rules.map Rule.pattern = rules'.map Rule.pattern := rfl
  obtain ⟨l', hl'⟩ := Lexicon.exists_compile_of_patterns hpatterns ⟨l, hl⟩
  obtain ⟨halike, hsilent⟩ := actions_do_not_cut hl hl' hpatterns
  obtain ⟨muted, hmuted, hsilent⟩ := hsilent 0 .skip (Action.silent_iff.2 (.inl rfl))
  obtain ⟨_, rfl, -, hlex⟩ := halike "ab"
  obtain ⟨_, rfl, -, hlex₂⟩ := hsilent "ab"
  rw [hpieces] at hlex hlex₂
  obtain ⟨d, hd, -⟩ | ⟨hlex, hlex'⟩ := hlex
  · rw [hd] at hok
    cases hok
  obtain ⟨d, hd, -⟩ | ⟨-, hlex₂⟩ := hlex₂
  · rw [hd] at hok
    cases hok
  exact ⟨l, l', muted, hl, hl', hmuted, hlex, hlex', hlex₂⟩

end Descent
