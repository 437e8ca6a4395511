import Descent.Proofs.Lexer.Stretches
import Descent.Proofs.Text.Checked

/-!
# Lexing passes its checks

A lexer can also go through a text by offsets alone (`Lexer.checkedLex`). At each offset it searches
the text with one rule after the other for what the rule finds there or further on
(`Pattern.checkedSearch`), and takes what the first of them finds right there, if it is not empty.
It cuts that piece out of the text, makes a token with its span, and goes on at the offset behind
it. Each of these steps has a check.

At every offset that the lexer comes to, it stands between what has been cut off the text and what
is left of it. So all checks are passed, and the outcome is the one of the lexer that knows its
place in the text (`Lexer.checkedLex_eq`).
-/

namespace Descent

open Text (Place)

/-! ## Searching -/

namespace Pattern

/-- What is preferred at the first place from which on the text has a match: the offsets between
which it stands. The search begins at an offset, behind one character and in front of others. -/
def search? (pattern : Pattern) (offset : Nat) (prev : Option Char) (rest : List Char) :
    Option (Nat × Nat) :=
  match pattern.preferred? ⟨prev, rest⟩ with
  | some n => some (offset, offset + Text.byteLength (rest.take n))
  | none =>
    match rest with
    | [] => none
    | c :: rest => pattern.search? (offset + c.utf8Size) (some c) rest

/-- Search a text from an offset on, which has to be a boundary before the end of the text. -/
def checkedSearch (pattern : Pattern) (text : String) (offset : Nat) :
    Checked (Option (Nat × Nat)) :=
  match Text.column? text.toList offset with
  | some column =>
    if offset < text.utf8ByteSize then
      let p := (Place.start text.toList).skip column
      .ok (pattern.search? offset p.prev p.rest)
    else .error (.search offset)
  | none => .error (.search offset)

variable {pattern : Pattern} {offset start stop : Nat} {prev : Option Char} {rest : List Char}

theorem le_of_search? (h : pattern.search? offset prev rest = some (start, stop)) :
    offset ≤ start := by
  induction rest generalizing offset prev with
  | nil =>
    rw [search?] at h
    split at h
    · obtain ⟨rfl, -⟩ := Prod.mk.inj (Option.some.inj h)
      exact Nat.le_refl _
    · cases h
  | cons c rest ih =>
    rw [search?] at h
    split at h
    · obtain ⟨rfl, -⟩ := Prod.mk.inj (Option.some.inj h)
      exact Nat.le_refl _
    · exact Nat.le_of_add_right_le (ih h)

/-- If there is a match at a place then this is what is found there. -/
theorem search?_of_preferred? {n : Nat} (h : pattern.preferred? ⟨prev, rest⟩ = some n) :
    pattern.search? offset prev rest = some (offset, offset + Text.byteLength (rest.take n)) := by
  unfold search?
  rw [h]

/-- If there is no match at a place then what is found is further on. -/
theorem lt_of_search? (hnone : pattern.preferred? ⟨prev, rest⟩ = none)
    (h : pattern.search? offset prev rest = some (start, stop)) : offset < start := by
  unfold search? at h
  rw [hnone] at h
  cases rest with
  | nil => cases h
  | cons c rest =>
    have hle := le_of_search? h
    have hpos := c.utf8Size_pos
    omega

theorem checkedSearch_eq (pattern : Pattern) {text : String} {before after : List Char}
    (htext : text.toList = before ++ after) (hafter : after ≠ []) :
    pattern.checkedSearch text (Text.byteLength before) =
      .ok (pattern.search? (Text.byteLength before) before.getLast? after) := by
  have hlt := Text.byteLength_lt_utf8ByteSize htext hafter
  have hskip : (Place.start (before ++ after)).skip before.length = .between before after :=
    Place.skip_length [] before after
  rw [checkedSearch, htext, Text.column?_append_byteLength]
  dsimp only
  rw [if_pos hlt, hskip]
  rfl

end Pattern

/-! ## Lexing -/

variable {κ : Type}

/-- What is taken at an offset. -/
structure Match (κ : Type) (offset : Nat) where
  /-- the rule that takes it -/
  rule : CompiledRule κ
  /-- the offset behind it -/
  stop : Nat
  /-- it is not empty -/
  lt_stop : offset < stop

/-- What the action makes of a piece of a text with a span: a token, or none. -/
def Action.checkedApply (text : String) (start stop : Nat) (a : Action κ) :
    Checked (Option (Token κ)) :=
  match a.apply text with
  | none => .ok none
  | some (kind, value) => ((Token.make kind value start stop).mapError Breach.fault).map some

namespace Lexer

/-- What the first rule takes that takes anything at the offset. -/
def checkedMatch (text : String) (offset : Nat) :
    List (CompiledRule κ) → Checked (Option (Match κ offset))
  | [] => .ok none
  | r :: rules => do
    match ← r.pattern.checkedSearch text offset with
    | none => checkedMatch text offset rules
    | some (start, stop) =>
      if h : start = offset ∧ offset < stop then return some ⟨r, stop, h.2⟩
      else checkedMatch text offset rules

/-- The tokens of a text from an offset on, behind tokens that are there already, or why it has
none. -/
def checkedLexFrom (l : Lexer κ) (text : String) (offset : Nat) (tokens : List (Token κ)) :
    Checked (Except Diagnostic (List (Token κ))) :=
  if _more : offset < text.utf8ByteSize then do
    match ← checkedMatch text offset l.rules with
    | none =>
      return .error (← Diagnostic.checked .lexical Diagnostic.invalidCharacter text offset)
    | some m =>
      let piece ← Text.checkedSlice text offset m.stop
      let made ← m.rule.action.checkedApply piece offset m.stop
      l.checkedLexFrom text m.stop (tokens ++ made.toList)
  else return .ok tokens
termination_by text.utf8ByteSize - offset
decreasing_by
  have := m.lt_stop
  omega

/-- The tokens of a text, or why it has none. -/
def checkedLex (l : Lexer κ) (text : String) : Checked (Except Diagnostic (List (Token κ))) :=
  l.checkedLexFrom text 0 []

variable {l : Lexer κ} {text : String} {before after : List Char}

section Match

variable {r : CompiledRule κ} {rules : List (CompiledRule κ)}
  (htext : text.toList = before ++ after) (hafter : after ≠ [])
include htext hafter

/-- A rule that prefers something that is not empty takes it. -/
theorem checkedMatch_cons_of_pos {n : Nat} (hn : 0 < n)
    (h : r.pattern.preferred? (.between before after) = some n) :
    ∃ m : Match κ (Text.byteLength before), m.rule = r ∧
      m.stop = Text.byteLength before + Text.byteLength (after.take n) ∧
      checkedMatch text (Text.byteLength before) (r :: rules) = .ok (some m) := by
  have hpiece := Pattern.byteLength_take_pos hn h
  rw [checkedMatch, Pattern.checkedSearch_eq _ htext hafter, Pattern.search?_of_preferred? h]
  have hguard : Text.byteLength before = Text.byteLength before ∧
      Text.byteLength before < Text.byteLength before + Text.byteLength (after.take n) :=
    ⟨rfl, Nat.lt_add_of_pos_right hpiece⟩
  exact ⟨⟨r, _, hguard.2⟩, rfl, rfl, dif_pos hguard⟩

/-- A rule that prefers nothing, or what is empty, takes nothing, whatever it finds further on. -/
theorem checkedMatch_cons_of_not_pos
    (h : ∀ n, r.pattern.preferred? (.between before after) ≠ some (n + 1)) :
    checkedMatch text (Text.byteLength before) (r :: rules) =
      checkedMatch text (Text.byteLength before) rules := by
  rw [checkedMatch, Pattern.checkedSearch_eq _ htext hafter]
  rcases hsearch : r.pattern.search? (Text.byteLength before) before.getLast? after with
    _ | ⟨start, stop⟩
  · rfl
  · refine dif_neg ?_
    rintro ⟨rfl, hlt⟩
    cases hpreferred : r.pattern.preferred? (.between before after) with
    | none => exact Nat.lt_irrefl _ (Pattern.lt_of_search? hpreferred hsearch)
    | some n =>
      cases n with
      | succ n => exact h n hpreferred
      | zero =>
        rw [Pattern.search?_of_preferred? hpreferred] at hsearch
        obtain ⟨-, rfl⟩ := Prod.mk.inj (Option.some.inj hsearch)
        exact Nat.lt_irrefl _ hlt

theorem checkedMatch_of_none {i : Nat}
    (h : firstHit? (.between before after) i rules = none) :
    checkedMatch text (Text.byteLength before) rules = .ok none := by
  fun_induction firstHit? (.between before after) i rules with
  | case1 => rfl
  | case2 => cases h
  | case3 i r rules hr ih =>
    rw [checkedMatch_cons_of_not_pos htext hafter hr]
    exact ih h

theorem checkedMatch_of_some {i : Nat} {hit : Hit κ}
    (h : firstHit? (.between before after) i rules = some hit) :
    ∃ m : Match κ (Text.byteLength before), m.rule = hit.rule ∧
      m.stop = Text.byteLength before + Text.byteLength (after.take hit.length) ∧
      checkedMatch text (Text.byteLength before) rules = .ok (some m) := by
  fun_induction firstHit? (.between before after) i rules with
  | case1 => cases h
  | case2 i r rules n hn =>
    obtain rfl := Option.some.inj h
    exact checkedMatch_cons_of_pos htext hafter (Nat.succ_pos n) hn
  | case3 i r rules hr ih =>
    rw [checkedMatch_cons_of_not_pos htext hafter hr]
    exact ih h

end Match

/-- A token that is made of a segment does not end before it starts. -/
theorem checkedApply_eq (g : Segment κ) :
    g.action.checkedApply g.text g.start g.stop = .ok g.token? := by
  have hle : g.start ≤ g.stop := Nat.le_add_right _ _
  unfold Action.checkedApply Segment.token?
  rcases g.action.apply g.text with _ | ⟨kind, value⟩
  · rfl
  · dsimp only
    rw [Token.make, if_pos hle]
    rfl

/-- How lexing ends behind some tokens, if this is the scan of what is left. -/
def resultBehind (text : String) (tokens : List (Token κ)) (s : Scan κ) :
    Except Diagnostic (List (Token κ)) :=
  (s.result text).map (tokens ++ ·)

theorem resultBehind_cons (text : String) (tokens : List (Token κ)) (g : Segment κ) (s : Scan κ) :
    resultBehind text tokens ⟨g :: s.segments, s.stuck⟩ =
      resultBehind text (tokens ++ g.token?.toList) s := by
  unfold resultBehind Scan.result
  cases s.stuck with
  | some offset => rfl
  | none =>
    refine congrArg Except.ok ?_
    dsimp only
    rw [List.append_assoc, Scan.tokens, Scan.tokens]
    cases hg : g.token? with
    | none => rw [List.filterMap_cons_none hg, Option.toList_none, List.nil_append]
    | some t => rw [List.filterMap_cons_some hg, Option.toList_some, List.singleton_append]

theorem checkedLexFrom_of_hit {piece : List Char} {hit : Hit κ} (tokens : List (Token κ))
    (htext : text.toList = before ++ piece ++ after) (hlength : piece.length = hit.length)
    (hhit : l.hit? (.between before (piece ++ after)) = some hit) :
    let g : Segment κ :=
      ⟨hit.index, hit.rule.action, Text.byteLength before, String.ofList piece⟩
    l.checkedLexFrom text (Text.byteLength before) tokens =
      l.checkedLexFrom text (Text.byteLength before + Text.byteLength piece)
        (tokens ++ g.token?.toList) := by
  intro g
  have htext' : text.toList = before ++ (piece ++ after) := by rw [htext, List.append_assoc]
  have hne : piece ++ after ≠ [] := by
    have hpos := hit.length_pos
    rintro heq
    obtain ⟨rfl, -⟩ := List.append_eq_nil_iff.1 heq
    rw [← hlength, List.length_nil] at hpos
    exact Nat.lt_irrefl 0 hpos
  obtain ⟨m, hrule, hstop, hm⟩ := checkedMatch_of_some htext' hne hhit
  rw [← hlength, List.take_left] at hstop
  have happly : m.rule.action.checkedApply (String.ofList piece) (Text.byteLength before) m.stop =
      .ok g.token? := by
    have h := checkedApply_eq g
    rw [Segment.stop, String.toList_ofList] at h
    rw [hrule, hstop]
    exact h
  have hslice : Text.checkedSlice text (Text.byteLength before) m.stop =
      .ok (String.ofList piece) := by
    rw [hstop]
    exact Text.checkedSlice_eq htext
  rw [checkedLexFrom, dif_pos (Text.byteLength_lt_utf8ByteSize htext' hne), hm]
  simp only [Checked.ok_bind, hslice, happly]
  rw [hstop]

/-- **Lexing passes its checks**, and has the outcome that it has without them. -/
theorem checkedLex_eq (l : Lexer κ) (text : String) : l.checkedLex text = .ok (l.lex text) := by
  -- the tokens that are there already come in front of those of the scan
  have hscan : ∀ tokens,
      l.checkedLexFrom text 0 tokens = .ok (resultBehind text tokens (l.scan text)) := by
    refine l.scan_induction (P := fun offset s => ∀ tokens,
      l.checkedLexFrom text offset tokens = .ok (resultBehind text tokens s)) text ?_ ?_ ?_
    · intro tokens
      rw [checkedLexFrom, dif_neg (Nat.lt_irrefl _)]
      exact congrArg (Except.ok ∘ Except.ok) (List.append_nil tokens).symm
    · intro before after htext hafter hhit tokens
      have hmore := Text.byteLength_lt_utf8ByteSize htext hafter
      rw [checkedLexFrom, dif_pos hmore, checkedMatch_of_none htext hafter hhit]
      simp only [Checked.ok_bind, Diagnostic.checked_eq]
      rfl
    · intro before piece after hit s htext hlength hhit hs tokens
      rw [checkedLexFrom_of_hit tokens htext hlength hhit, hs, resultBehind_cons]
  rw [checkedLex, hscan]
  unfold resultBehind lex Scan.result
  cases (l.scan text).stuck <;> rfl

/-- The diagnostic of a text that has no tokens can be shown. -/
theorem checkedCaret_of_lex_error {d : Diagnostic} (h : l.lex text = .error d) :
    d.checkedCaret = .ok d.caret := by
  obtain ⟨q, -, hq, rfl⟩ := exists_stuck_of_lex_error h
  exact Diagnostic.checkedCaret_eq hq

end Lexer

end Descent
