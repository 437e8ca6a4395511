import Descent.Proofs.Calculator.Words

/-!
# Layout between words

Layout is white space, and comments with the line feeds that end them. Between two words of a text
it says nothing: if it is put in where the scan of a text comes to, then the tokens behind it are
moved by as many bytes as it has, and nothing else changes (`Calculator.exists_yield_insert`).

The words of the text stay what they were, with two exceptions. White space goes on with the white
space that is put in, and a comment goes on up to the next line feed
(`Calculator.Layout.yieldFrom_merge`). In both cases what comes of the text is what comes of it
behind the layout.
-/

namespace Descent

/-! ## Moving what stands behind a place -/

section Displaced

variable {κ : Type} {l : Lexer κ} {words : List (Word κ)}

/-- The token, if so many bytes are put into the text at `p`. -/
def Token.displaced (p n : Nat) (t : Token κ) : Token κ := if t.start < p then t else t.moved n

/-- What comes of a text, if so many bytes that say nothing are put in at `p`. It is stuck behind
them. -/
def Yield.displaced (p n : Nat) (y : Yield κ) : Yield κ :=
  ⟨y.tokens.map (Token.displaced p n), y.stuck.map (n + ·)⟩

theorem Yield.displaced_behind {p n : Nat} {first : List (Token κ)}
    (hfirst : ∀ t ∈ first, t.start < p) (y : Yield κ) :
    (y.behind first).displaced p n = (y.displaced p n).behind first := by
  have hstay : first.map (Token.displaced p n) = first :=
    List.map_congr_left (g := id) (fun t ht => if_pos (hfirst t ht)) |>.trans (List.map_id first)
  rw [displaced, behind, List.map_append, hstay]
  rfl

/-- No token stands before the offset at which the text begins. -/
theorem Lexer.Reads.le_start (hl : l.Reads words) {start : Nat} {cs : List Char} :
    ∀ t ∈ (l.yieldFrom start cs).tokens, start ≤ t.start := by
  rw [← Nat.add_zero start, hl.yieldFrom_add]
  intro t ht
  obtain ⟨u, -, rfl⟩ := List.mem_map.1 ht
  exact Nat.add_le_add_left (Nat.zero_le u.start) start

/-- What is put in before a text moves all of it. -/
theorem Lexer.Reads.yieldFrom_displaced (hl : l.Reads words) (n start : Nat) (cs : List Char) :
    l.yieldFrom (start + n) cs = (l.yieldFrom start cs).displaced start n := by
  have htokens : (l.yieldFrom start cs).tokens.map (Token.moved n) =
      (l.yieldFrom start cs).tokens.map (Token.displaced start n) :=
    List.map_congr_left fun t ht => (if_neg (Nat.not_lt.2 (hl.le_start t ht))).symm
  rw [Nat.add_comm, hl.yieldFrom_add, Yield.moved, htokens, Yield.displaced]

end Displaced

namespace Calculator

/-! ## Layout -/

/-- White space, and comments with the line feeds that end them. -/
inductive Layout : List Char → Prop where
  /-- nothing -/
  | nil : Layout []
  /-- a character of white space -/
  | space {c : Char} {cs : List Char} (hc : Unicode.whiteSpace.contains c = true)
      (h : Layout cs) : Layout (c :: cs)
  /-- a comment and the end of its line -/
  | comment {body cs : List Char} (hbody : '\n' ∉ body) (h : Layout cs) :
      Layout ('#' :: body ++ '\n' :: cs)

variable {w before after piece body rest : List Char} {start : Nat}

theorem lineFeed_white : Unicode.whiteSpace.contains '\n' = true := by decide +kernel

theorem layout_of_white (h : ∀ c ∈ w, Unicode.whiteSpace.contains c = true) : Layout w := by
  induction w with
  | nil => exact .nil
  | cons c cs ih =>
    obtain ⟨hc, hcs⟩ := List.forall_mem_cons.1 h
    exact .space hc (ih hcs)

theorem Layout.head_cases {d : Char} (h : Layout w) (hd : d ∈ w.head?) :
    Unicode.whiteSpace.contains d = true ∨ d = '#' := by
  cases h with
  | nil => cases hd
  | space hc _ => exact .inl (Option.some.inj hd ▸ hc)
  | comment _ _ => exact .inr (Option.some.inj hd).symm

/-- Layout can be cut in two at its first line feed. -/
theorem Layout.exists_line (h : Layout w) :
    ∃ line tail, w = line ++ tail ∧ '\n' ∉ line ∧ (∀ d ∈ tail.head?, d = '\n') ∧ Layout tail := by
  induction h with
  | nil => exact ⟨[], [], rfl, nofun, nofun, .nil⟩
  | @space c cs hc h ih =>
    by_cases hline : c = '\n'
    · exact ⟨[], c :: cs, rfl, nofun, by simp [hline], .space hc h⟩
    · obtain ⟨line, tail, rfl, hno, hhead, htail⟩ := ih
      exact ⟨c :: line, tail, rfl, by simp [hno, Ne.symm hline], hhead, htail⟩
  | @comment body cs hbody h _ =>
    exact ⟨'#' :: body, '\n' :: cs, rfl, by simp [hbody], by simp, .space lineFeed_white h⟩

/-- Nothing comes of layout. -/
theorem Layout.yieldFrom_append (h : Layout w) (start : Nat) (rest : List Char) :
    lexer.yieldFrom start (w ++ rest) = lexer.yieldFrom (start + Text.byteLength w) rest := by
  induction h generalizing start with
  | nil => rfl
  | space hc _ ih =>
    rw [List.cons_append, yieldFrom_space hc, ih, Text.byteLength_cons, Nat.add_assoc]
  | @comment body cs hbody _ ih =>
    rw [List.append_assoc, List.cons_append (a := '\n'), yieldFrom_comment hbody (by simp),
      yieldFrom_space lineFeed_white, ih, Text.byteLength_append, Text.byteLength_cons (c := '\n'),
      Nat.add_assoc, Nat.add_assoc]

/-- Nothing comes of layout behind a comment: the comment takes what is on its line, and what is
left is layout. -/
theorem Layout.yieldFrom_comment_append (h : Layout w) (hbody : '\n' ∉ body)
    (hrest : ∀ d ∈ rest.head?, d = '\n') (start : Nat) :
    lexer.yieldFrom start ('#' :: body ++ (w ++ rest)) =
      lexer.yieldFrom (start + Text.byteLength ('#' :: body) + Text.byteLength w) rest := by
  obtain ⟨line, tail, rfl, hline, hhead, htail⟩ := h.exists_line
  have hends : ∀ d ∈ (tail ++ rest).head?, d = '\n' := by
    cases tail with
    | nil => exact hrest
    | cons c cs => exact hhead
  have hbody' : '\n' ∉ body ++ line := by simp [hbody, hline]
  have hyield := yieldFrom_comment hbody' hends start
  rw [htail.yieldFrom_append, ← List.cons_append, Text.byteLength_append] at hyield
  rw [List.append_assoc, ← List.append_assoc, hyield, Text.byteLength_append]
  congr 1
  omega

/-! ## Putting layout in -/

theorem words_cases {v : Word Kind} (hv : v ∈ words) :
    (∃ kind : Kind, v = kind.word) ∨ v = space ∨ v = comment := by
  obtain hv | hv := List.mem_append.1 hv
  · obtain ⟨kind, -, rfl⟩ := List.mem_map.1 hv
    exact .inl ⟨kind, rfl⟩
  · obtain rfl | hv := List.mem_cons.1 hv
    · exact .inr (.inl rfl)
    · exact .inr (.inr (List.mem_singleton.1 hv))

/-- If something is put in and there is another character at the front, then it was put in there. -/
theorem head?_insert_cases {d : Char} (hd : d ∈ (before ++ (w ++ after)).head?)
    (hnot : d ∉ (before ++ after).head?) : before = [] ∧ d ∈ w.head? := by
  rcases before with _ | ⟨b, bs⟩
  · rcases w with _ | ⟨e, es⟩
    · exact absurd hd hnot
    · exact ⟨rfl, hd⟩
  · exact absurd hd hnot

/-- If a word goes on into layout that is put in behind it, then the word is skipped, and so is the
layout. -/
theorem Layout.yieldFrom_merge {v : Word Kind} {d : Char} (h : Layout w)
    (hcuts : Word.Cuts words v piece after) (hd : d ∈ w.head?)
    (hmore : v.run.more.contains d = true) (start : Nat) :
    v.kind = none ∧ lexer.yieldFrom start (piece ++ (w ++ after)) =
      lexer.yieldFrom (start + Text.byteLength piece + Text.byteLength w) after := by
  obtain @⟨c, cs, _, hbegins, hall, hends⟩ := hcuts
  obtain ⟨hv, hfirst⟩ := Word.of?_eq_some hbegins
  obtain ⟨kind, rfl⟩ | rfl | rfl := words_cases hv
  · have hnot : kind.word.run.more.contains d = false := by
      obtain hwhite | rfl := h.head_cases hd
      · exact kind.not_more_of_space hwhite
      · cases kind <;> decide
    rw [hnot] at hmore
    cases hmore
  · have hpiece : Layout (c :: cs) := layout_of_white (List.forall_mem_cons.2 ⟨hfirst, hall⟩)
    refine ⟨rfl, ?_⟩
    rw [hpiece.yieldFrom_append, h.yieldFrom_append]
  · obtain rfl : c = '#' := CharSet.contains_single.1 hfirst
    refine ⟨rfl, ?_⟩
    refine h.yieldFrom_comment_append (fun hmem => ?_) (fun e he => ?_) start
    · exact contains_comment_more.1 (hall _ hmem) rfl
    · have hnot := hends e he
      rwa [← Bool.not_eq_true, contains_comment_more, not_not] at hnot

/-- **Layout that is put in behind words moves what comes of the text behind it.** -/
theorem Layout.yieldFrom_insert (h : Layout w) (hcut : Word.Cut words before after)
    (start : Nat) :
    lexer.yieldFrom start (before ++ (w ++ after)) =
      (lexer.yieldFrom start (before ++ after)).displaced (start + Text.byteLength before)
        (Text.byteLength w) := by
  induction hcut generalizing start with
  | nil after =>
    rw [List.nil_append, List.nil_append, h.yieldFrom_append, reads_lexer.yieldFrom_displaced]
    rfl
  | @cons v piece before after hcuts _ ih =>
    rw [List.append_assoc, List.append_assoc]
    by_cases hjoins : ∃ d ∈ (before ++ (w ++ after)).head?, v.run.more.contains d = true
    · -- the word goes on into the layout, which stands right behind it
      obtain ⟨d, hd, hmore⟩ := hjoins
      have hnot : d ∉ (before ++ after).head? := by
        intro hmem
        rw [hcuts.ends d hmem] at hmore
        cases hmore
      obtain ⟨rfl, hw⟩ := head?_insert_cases hd hnot
      rw [List.nil_append] at hcuts ⊢
      obtain ⟨hkind, hyield⟩ := h.yieldFrom_merge hcuts hw hmore start
      rw [hyield, List.nil_append, reads_lexer.yieldFrom_append_of_none hcuts hkind,
        reads_lexer.yieldFrom_displaced, List.append_nil]
    · -- the word stays what it was, and the layout is put in somewhere behind it
      have hends : ∀ d ∈ (before ++ (w ++ after)).head?, v.run.more.contains d = false :=
        fun d hd => Bool.eq_false_iff.2 fun hmore => hjoins ⟨d, hd, hmore⟩
      have hfirst : ∀ t ∈ (v.token? start piece).toList,
          t.start < start + Text.byteLength (piece ++ before) := by
        intro t ht
        obtain ⟨kind, -, rfl⟩ := Option.map_eq_some_iff.1 (Option.mem_toList.1 ht)
        have := hcuts.byteLength_pos
        rw [Text.byteLength_append]
        dsimp only
        omega
      rw [reads_lexer.yieldFrom_append (hcuts.of_ends hends), ih,
        reads_lexer.yieldFrom_append hcuts, Yield.displaced_behind hfirst, Text.byteLength_append,
        Nat.add_assoc]

variable {text : String} {p : Nat} {insert : String}

/-- **Layout that is put in where the scan of a text comes to moves what stands behind it.** -/
theorem exists_yield_insert (hp : lexer.Reaches text p) (h : Layout insert.toList) :
    ∃ before after : String, text = before ++ after ∧ before.utf8ByteSize = p ∧
      (lexer.scan (before ++ insert ++ after)).yield =
        (lexer.scan text).yield.displaced p insert.utf8ByteSize := by
  obtain ⟨before, after, htext, rfl, hcut⟩ := reads_lexer.exists_cut hp
  refine ⟨.ofList before, .ofList after, ?_, ?_, ?_⟩
  · rw [← String.ofList_append, ← htext, String.ofList_toList]
  · rw [← Text.byteLength_toList, String.toList_ofList]
  · have hyield := h.yieldFrom_insert hcut 0
    rw [← htext, Nat.zero_add, Text.byteLength_toList] at hyield
    have hinserted : (String.ofList before ++ insert ++ .ofList after).toList =
        before ++ (insert.toList ++ after) := by
      simp only [String.toList_append, String.toList_ofList, List.append_assoc]
    rw [Lexer.scan, hinserted]
    exact hyield

/-- The tokens of the text and of the text with the layout. -/
theorem lex_displaced_of_ok {text' : String} {n : Nat} {tokens : List (Token Kind)}
    (hyield : (lexer.scan text').yield = (lexer.scan text).yield.displaced p n)
    (hlex : lexer.lex text = .ok tokens) :
    lexer.lex text' = .ok (tokens.map (Token.displaced p n)) := by
  obtain ⟨hstuck, rfl⟩ := Lexer.lex_eq_ok_iff.1 hlex
  have hstuck' : (lexer.scan text').yield.stuck = none :=
    (congrArg Yield.stuck hyield).trans (Option.map_eq_none_iff.2 hstuck)
  exact Lexer.lex_eq_ok_iff.2 ⟨hstuck', congrArg Yield.tokens hyield⟩

/-- The text fails where it failed, and with the layout as many bytes further on. -/
theorem lex_displaced_of_error {text' : String} {n : Nat} {d : Diagnostic}
    (hyield : (lexer.scan text').yield = (lexer.scan text).yield.displaced p n)
    (hlex : lexer.lex text = .error d) :
    lexer.lex text' = .error { d with source := text', offset := n + d.offset } := by
  obtain ⟨q, hstuck, -, rfl⟩ := Lexer.exists_stuck_of_lex_error hlex
  refine Lexer.lex_eq_error_iff.2 ((congrArg Yield.stuck hyield).trans ?_)
  exact Option.map_eq_some_iff.2 ⟨q, hstuck, rfl⟩

end Calculator

end Descent
