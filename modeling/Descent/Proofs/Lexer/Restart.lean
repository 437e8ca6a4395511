import Descent.Proofs.Lexicon.Compiling
import Descent.Proofs.Pattern.LookAhead

/-!
# A scan can begin at any boundary between segments

If all patterns of a lexer look ahead, then the scan from a place on depends on the text behind the
place alone. The offset at which the place stands is carried along, but it has no say in what is
taken; so to begin further on moves all segments by as much (`Lexer.LooksAhead.scanFrom_add`).

The scan of a text comes to a boundary behind each of its segments (`Lexer.Reaches`). From there on
it is the scan of the text that begins there, moved (`Lexer.LooksAhead.exists_scan_eq`), and so the
tokens of the text are those before the boundary and those of the other text
(`Lexer.lex_restarts`).
-/

namespace Descent

open Text (Place)

variable {κ : Type}

/-! ## Moving a scan -/

/-- The token, some bytes further on. -/
def Token.moved (n : Nat) (t : Token κ) : Token κ :=
  { t with start := n + t.start, stop := n + t.stop }

/-- The segment, some bytes further on. -/
def Segment.moved (n : Nat) (g : Segment κ) : Segment κ := { g with start := n + g.start }

theorem Segment.stop_moved (n : Nat) (g : Segment κ) : (g.moved n).stop = n + g.stop :=
  Nat.add_assoc n g.start _

theorem Segment.token?_moved (n : Nat) (g : Segment κ) :
    (g.moved n).token? = g.token?.map (Token.moved n) := by
  rw [token?, token?, stop_moved, Option.map_map]
  rfl

namespace Scan

/-- The scan of a text that begins some bytes further on. -/
def moved (n : Nat) (s : Scan κ) : Scan κ := ⟨s.segments.map (Segment.moved n), s.stuck.map (n + ·)⟩

/-- The scan, behind segments that were cut off before. -/
def behind (first : List (Segment κ)) (s : Scan κ) : Scan κ := ⟨first ++ s.segments, s.stuck⟩

@[simp] theorem tokens_moved (n : Nat) (s : Scan κ) :
    (s.moved n).tokens = s.tokens.map (Token.moved n) := by
  simp only [tokens, moved, List.filterMap_map, List.map_filterMap, Function.comp_def,
    Segment.token?_moved]

@[simp] theorem tokens_behind (first : List (Segment κ)) (s : Scan κ) :
    (s.behind first).tokens = first.filterMap Segment.token? ++ s.tokens :=
  List.filterMap_append

end Scan

namespace Lexer

variable {l : Lexer κ} {text : String} {tokens : List (Token κ)} {p q : Nat}

/-! ## The scan and its outcome -/

theorem lex_eq_ok_iff : l.lex text = .ok tokens ↔
    (l.scan text).stuck = none ∧ (l.scan text).tokens = tokens := by
  refine ⟨tokens_of_lex, ?_⟩
  rintro ⟨hstuck, rfl⟩
  rw [lex, Scan.result, hstuck]

theorem lex_eq_error_iff : l.lex text = .error ⟨.lexical, Diagnostic.invalidCharacter, text, q⟩ ↔
    (l.scan text).stuck = some q := by
  constructor
  · intro h
    obtain ⟨q', hstuck, -, hd⟩ := exists_stuck_of_lex_error h
    obtain rfl : q = q' := congrArg Diagnostic.offset hd
    exact hstuck
  · intro hstuck
    have hlex : l.lex text = .error (.lexical Diagnostic.invalidCharacter text q) := by
      rw [lex, Scan.result, hstuck]
    obtain ⟨q', hstuck', -, hd⟩ := exists_stuck_of_lex_error hlex
    obtain rfl := Option.some.inj (hstuck.symm.trans hstuck')
    rw [hlex, hd]

/-! ## The scan of what is left -/

/-- All patterns of the lexer look ahead. -/
def LooksAhead (l : Lexer κ) : Prop := ∀ r ∈ l.rules, r.pattern.LooksAhead

/-- The offsets that the scan of a text comes to: the beginning, and those behind its segments. -/
def Reaches (l : Lexer κ) (text : String) (p : Nat) : Prop :=
  p = 0 ∨ ∃ g ∈ (l.scan text).segments, g.stop = p

namespace LooksAhead

/-- What a rule looks at is ahead, so that equal rests are hit in the same way. -/
theorem hit?_congr (hl : l.LooksAhead) {a b : Place} (hrest : a.rest = b.rest) :
    l.hit? a = l.hit? b := by
  have hfirst : ∀ rules : List (CompiledRule κ), (∀ r ∈ rules, r.pattern.LooksAhead) →
      ∀ index, firstHit? a index rules = firstHit? b index rules := by
    intro rules hrules
    induction rules with
    | nil => exact fun _ => rfl
    | cons r rules ih =>
      intro index
      obtain ⟨hr, hrules⟩ := List.forall_mem_cons.1 hrules
      rw [firstHit?, firstHit?, hr.preferred?_eq a, hr.preferred?_eq b, hrest, ih hrules]
  exact hfirst l.rules hl 0

/-- **Where a text stands has no say in how it is cut.** -/
theorem scanFrom_add (hl : l.LooksAhead) (n start : Nat) {a b : Place} (hrest : a.rest = b.rest) :
    l.scanFrom (n + start) a = (l.scanFrom start b).moved n := by
  fun_induction l.scanFrom start b generalizing a with
  | case1 start b hend =>
    rw [scanFrom, dif_pos (hrest.trans hend)]
    rfl
  | case2 start b hmore hnone =>
    rw [scanFrom, dif_neg (hrest ▸ hmore), hl.hit?_congr hrest, hnone]
    rfl
  | case3 start b hmore hit hsome piece after =>
    rename_i ih
    have hskip : (a.skip hit.length).rest = (b.skip hit.length).rest := by
      rw [Place.rest_skip, Place.rest_skip, hrest]
    rw [scanFrom, dif_neg (hrest ▸ hmore), hl.hit?_congr hrest, hsome]
    dsimp only
    rw [hrest, Nat.add_assoc, ih hskip]
    rfl

/-- To scan from a place is to scan what is left as a text of its own. -/
theorem scanFrom_eq (hl : l.LooksAhead) (start : Nat) (a : Place) :
    l.scanFrom start a = (l.scanFrom 0 (.start a.rest)).moved start :=
  hl.scanFrom_add start 0 rfl

theorem scanFrom_congr (hl : l.LooksAhead) (start : Nat) {a b : Place} (hrest : a.rest = b.rest) :
    l.scanFrom start a = l.scanFrom start b := by
  rw [hl.scanFrom_eq start a, hrest, ← hl.scanFrom_eq start b]

/-- Behind each of its segments a scan is the scan of the text that begins there. -/
theorem exists_scanFrom_eq (hl : l.LooksAhead) {start : Nat} {a : Place} {g : Segment κ}
    (hg : g ∈ (l.scanFrom start a).segments) :
    ∃ before after first, a.rest = before ++ after ∧ start + Text.byteLength before = g.stop ∧
      (∀ f ∈ first, f.stop ≤ g.stop) ∧
      l.scanFrom start a = ((l.scanFrom 0 (.start after)).moved g.stop).behind first := by
  fun_induction l.scanFrom start a with
  | case1 | case2 => cases hg
  | case3 start a hmore hit hsome piece after ih =>
    have hrest : a.rest = piece ++ (a.skip hit.length).rest := by
      rw [Place.rest_skip, List.take_append_drop]
    have hstop : Segment.stop ⟨hit.index, hit.rule.action, start, String.ofList piece⟩ =
        start + Text.byteLength piece := by rw [Segment.stop, String.toList_ofList]
    obtain rfl | hg := List.mem_cons.1 hg
    · refine ⟨piece, _, [_], hrest, hstop.symm, List.forall_mem_singleton.2 (Nat.le_refl _), ?_⟩
      rw [hstop, ← hl.scanFrom_eq]
      rfl
    · obtain ⟨before, rest, first, hbefore, hbytes, hfirst, hscan⟩ := ih hg
      refine ⟨piece ++ before, rest,
        ⟨hit.index, hit.rule.action, start, String.ofList piece⟩ :: first, ?_, ?_,
        List.forall_mem_cons.2 ⟨hstop.trans_le (Nat.le_add_right _ _ |>.trans_eq hbytes), hfirst⟩,
        ?_⟩
      · rw [hrest, hbefore, List.append_assoc]
      · rw [Text.byteLength_append, ← Nat.add_assoc, hbytes]
      · show Scan.mk (_ :: (l.scanFrom _ _).segments) (l.scanFrom _ _).stuck = _
        rw [hscan]
        rfl

/-- From an offset on that the scan of a text comes to, it is the scan of the text behind it. -/
theorem exists_scan_eq (hl : l.LooksAhead) (hp : l.Reaches text p) :
    ∃ before after : String, text = before ++ after ∧ before.utf8ByteSize = p ∧
      ∃ first, (∀ f ∈ first, f.stop ≤ p) ∧
        l.scan text = ((l.scan after).moved p).behind first := by
  obtain rfl | ⟨g, hg, rfl⟩ := hp
  · refine ⟨"", text, String.empty_append.symm, rfl, [], List.forall_mem_nil _, ?_⟩
    exact hl.scanFrom_add 0 0 rfl
  · obtain ⟨before, after, first, hrest, hbytes, hfirst, hscan⟩ := hl.exists_scanFrom_eq hg
    refine ⟨String.ofList before, String.ofList after, ?_, ?_, first, hfirst, ?_⟩
    · rw [← String.ofList_append, ← hrest, Place.start, String.ofList_toList]
    · rw [← Text.byteLength_toList, String.toList_ofList, ← hbytes, Nat.zero_add]
    · rw [scan, scan, String.toList_ofList, hscan]

end LooksAhead

/-- **Scanning can be taken up again at any boundary between segments.** If all patterns of a lexer
look ahead, then an offset that the scan of a text comes to cuts the text in two. What stands behind
it fails as the text does, as many bytes earlier as the offset counts. If the text has tokens, then
they are those that the segments before the offset make, followed by those of the text behind it, as
many bytes further on. -/
theorem lex_restarts (hl : l.LooksAhead) (hp : l.Reaches text p) :
    ∃ before after : String, text = before ++ after ∧ before.utf8ByteSize = p ∧
      (∀ q, p ≤ q →
        (l.lex text = .error ⟨.lexical, Diagnostic.invalidCharacter, text, q⟩ ↔
          l.lex after = .error ⟨.lexical, Diagnostic.invalidCharacter, after, q - p⟩)) ∧
      (∀ d, l.lex text = .error d →
        p ≤ d.offset ∧ d = ⟨.lexical, Diagnostic.invalidCharacter, text, d.offset⟩) ∧
      ∃ first, (∀ f ∈ first, f.stop ≤ p) ∧
        (l.scan text).segments = first ++ (l.scan after).segments.map (Segment.moved p) ∧
        ∀ tokens, l.lex text = .ok tokens → ∃ tail, l.lex after = .ok tail ∧
          tokens = first.filterMap Segment.token? ++ tail.map (Token.moved p) := by
  obtain ⟨before, after, htext, hbytes, first, hfirst, hscan⟩ := hl.exists_scan_eq hp
  have hstuck : (l.scan text).stuck = (l.scan after).stuck.map (p + ·) := by rw [hscan]; rfl
  refine ⟨before, after, htext, hbytes, ?_, ?_, first, hfirst, by rw [hscan]; rfl, ?_⟩
  · intro q hq
    rw [lex_eq_error_iff, lex_eq_error_iff, hstuck, Option.map_eq_some_iff]
    constructor
    · rintro ⟨q', hq', rfl⟩
      rw [hq', Nat.add_sub_cancel_left]
    · intro h
      exact ⟨q - p, h, Nat.add_sub_cancel' hq⟩
  · intro d hd
    obtain ⟨q, hq, -, rfl⟩ := exists_stuck_of_lex_error hd
    obtain ⟨q', -, rfl⟩ := Option.map_eq_some_iff.1 (hstuck.symm.trans hq)
    exact ⟨Nat.le_add_right p q', rfl⟩
  · intro tokens h
    obtain ⟨hnone, rfl⟩ := lex_eq_ok_iff.1 h
    refine ⟨(l.scan after).tokens, lex_eq_ok_iff.2 ⟨?_, rfl⟩, ?_⟩
    · exact Option.map_eq_none_iff.1 (hstuck.symm.trans hnone)
    · rw [hscan, Scan.tokens_behind, Scan.tokens_moved]

/-- Behind the first word of two and the space the scan can be taken up again. -/
theorem lex_restarts_of_words :
    let a : Lexicon Nat := ⟨[⟨"[a-z]+", .emit 0⟩, ⟨" ", .skip⟩], false⟩
    ∃ l, a.compile = .ok l ∧ l.LooksAhead ∧ l.Reaches "ab cd" 3 ∧
      ∃ (before after : String) (first : List (Segment Nat)) (tail : List (Token Nat)),
        "ab cd" = before ++ after ∧ before.utf8ByteSize = 3 ∧ l.lex after = .ok tail ∧
        l.lex "ab cd" = .ok (first.filterMap Segment.token? ++ tail.map (Token.moved 3)) := by
  intro a
  have hcompile : a.compile.toOption.map (fun l =>
      (l.rules.all fun r => !r.pattern.expr.looksBehind,
        (l.scan "ab cd").segments.map Segment.stop, (l.scan "ab cd").stuck)) =
      some (true, [2, 3, 5], none) := by decide +kernel
  obtain ⟨l, hl, hscan⟩ := Option.map_eq_some_iff.1 hcompile
  rw [toOption_eq_some_iff] at hl
  obtain ⟨hrules, hscan⟩ := Prod.mk.inj hscan
  obtain ⟨hstops, hnone⟩ := Prod.mk.inj hscan
  have hahead : l.LooksAhead := by
    intro r hr
    have hr := List.all_eq_true.1 hrules r hr
    exact Pattern.looksAhead_of_expr (by simpa using hr)
  have hreaches : l.Reaches "ab cd" 3 := by
    have hmem : 3 ∈ (l.scan "ab cd").segments.map Segment.stop := by rw [hstops]; decide
    exact .inr (List.mem_map.1 hmem)
  have hlex := lex_eq_ok_iff.2 ⟨hnone, rfl⟩
  obtain ⟨before, after, htext, hbytes, -, -, first, -, -, hrestart⟩ := lex_restarts hahead hreaches
  obtain ⟨tail, htail, htokens⟩ := hrestart _ hlex
  exact ⟨l, hl, hahead, hreaches, before, after, first, tail, htext, hbytes, htail,
    htokens ▸ hlex⟩

end Lexer

end Descent
