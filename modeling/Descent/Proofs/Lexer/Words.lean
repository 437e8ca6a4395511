import Descent.Proofs.CharSet.Algebra
import Descent.Proofs.Lexer.Restart
import Descent.Proofs.Pattern.Runs
import Mathlib.Data.List.TakeWhile

/-!
# Lexers of words

A lexer is one of words (`Lexer.Reads`) if each of its rules takes a run and either makes a token of
it or skips it. At a place such a lexer has no choice but by one character: the first word that the
character begins is cut off, as far as the run goes (`Word.Cuts`). So a scan can be told without
patterns. What comes of a text is the token of its first word, and what comes of the text behind it
(`Lexer.Reads.yieldFrom_append`); and wherever a scan comes to, words have been cut off up to there
(`Lexer.Reads.exists_cut`).
-/

namespace Descent

open Text (Place)

variable {κ : Type}

/-! ## Words -/

/-- A word: the run that it is, and the kind of the token that is made of it, if it is not
skipped. -/
structure Word (κ : Type) where
  /-- what is taken -/
  run : Pattern.Run
  /-- the kind of the token -/
  kind : Option κ
deriving DecidableEq

namespace Word

/-- What is done with the word. -/
def action (w : Word κ) : Action κ :=
  match w.kind with
  | some kind => .emit kind
  | none => .skip

/-- The token that is made of a piece of a text, if it is the word. -/
def token? (w : Word κ) (start : Nat) (piece : List Char) : Option (Token κ) :=
  w.kind.map fun kind => ⟨kind, String.ofList piece, start, start + Text.byteLength piece⟩

theorem token?_segment (w : Word κ) (index start : Nat) (piece : List Char) :
    Segment.token? ⟨index, w.action, start, String.ofList piece⟩ = w.token? start piece := by
  unfold token? action
  cases w.kind with
  | none => rfl
  | some kind => rw [Segment.token?, Segment.stop, String.toList_ofList]; rfl

/-- The first of the words that begins with a character. -/
def of? (words : List (Word κ)) (c : Char) : Option (Word κ) :=
  words.find? fun w => w.run.first.contains c

theorem of?_eq_some {words : List (Word κ)} {w : Word κ} {c : Char} (h : of? words c = some w) :
    w ∈ words ∧ w.run.first.contains c = true := by
  have hw := List.find?_some h
  exact ⟨List.mem_of_find?_eq_some h, hw⟩

/-- No two of the words begin with the same character. -/
def Apart (words : List (Word κ)) : Prop :=
  (∀ w ∈ words, w.run.first.Ordered) ∧
    words.Pairwise fun v w => v.run.first.inter w.run.first = .empty

instance (words : List (Word κ)) : Decidable (Apart words) :=
  inferInstanceAs (Decidable (_ ∧ _))

/-- If no two words begin with the same character, then their order says nothing. -/
theorem Apart.of?_eq_some {words : List (Word κ)} {w : Word κ} {c : Char} (h : Apart words)
    (hw : w ∈ words) (hc : w.run.first.contains c = true) : of? words c = some w := by
  obtain ⟨hordered, hapart⟩ := h
  induction words with
  | nil => cases hw
  | cons v words ih =>
    obtain ⟨hv, hordered⟩ := List.forall_mem_cons.1 hordered
    obtain rfl | hw := List.mem_cons.1 hw
    · exact List.find?_cons_of_pos hc
    · have hnot : v.run.first.contains c = false := by
        cases hvc : v.run.first.contains c with
        | false => rfl
        | true =>
          have hinter := List.rel_of_pairwise_cons hapart hw
          rw [CharSet.not_contains_of_inter hv (hordered w hw) hinter hvc] at hc
          cases hc
      exact (List.find?_cons_of_neg (by simp [hnot])).trans (ih hw hordered hapart.of_cons)

/-- The word is cut off a text: it is the first that can begin there, and it goes as far as its run
does. -/
inductive Cuts (words : List (Word κ)) (w : Word κ) : List Char → List Char → Prop where
  | intro {c : Char} {cs rest : List Char} (hbegins : of? words c = some w)
      (hmore : ∀ d ∈ cs, w.run.more.contains d = true)
      (hends : ∀ d ∈ rest.head?, w.run.more.contains d = false) : Cuts words w (c :: cs) rest

/-- Words are cut off a text, one after the other, until `after` is left of it. -/
inductive Cut (words : List (Word κ)) : List Char → List Char → Prop where
  | nil (after : List Char) : Cut words [] after
  | cons {w : Word κ} {piece before after : List Char} (h : Cuts words w piece (before ++ after))
      (hrest : Cut words before after) : Cut words (piece ++ before) after

variable {words : List (Word κ)} {w : Word κ} {piece rest : List Char}

/-- A run ends where it cannot go on. -/
theorem takeWhile_append_eq {p : Char → Bool} {cs : List Char} (hmore : ∀ d ∈ cs, p d = true)
    (hends : ∀ d ∈ rest.head?, p d = false) : (cs ++ rest).takeWhile p = cs := by
  rw [List.takeWhile_append_of_pos hmore]
  cases rest with
  | nil => exact List.append_nil cs
  | cons d rest => rw [List.takeWhile_cons_of_neg (by simp [hends d rfl]), List.append_nil]

theorem Cuts.ends (h : Cuts words w piece rest) :
    ∀ d ∈ rest.head?, w.run.more.contains d = false := by
  cases h
  assumption

/-- The same piece is cut off another text if the word ends there, too. -/
theorem Cuts.of_ends {rest' : List Char} (h : Cuts words w piece rest)
    (hends : ∀ d ∈ rest'.head?, w.run.more.contains d = false) : Cuts words w piece rest' := by
  obtain @⟨c, cs, _, hbegins, hmore, -⟩ := h
  exact .intro hbegins hmore hends

theorem Cuts.ne_nil (h : Cuts words w piece rest) : piece ≠ [] := by
  cases h
  exact List.cons_ne_nil _ _

theorem Cuts.byteLength_pos (h : Cuts words w piece rest) : 0 < Text.byteLength piece :=
  Nat.lt_of_lt_of_le (List.length_pos_iff.2 h.ne_nil) (Text.length_le_byteLength piece)

/-- If a character begins a word, then the word goes as far as its run does. -/
theorem cuts_takeWhile {c : Char} (h : of? words c = some w) (cs : List Char) :
    Cuts words w (c :: cs.takeWhile w.run.more.contains) (cs.dropWhile w.run.more.contains) := by
  refine .intro h (fun d hd => List.mem_takeWhile_imp hd) fun d hd => ?_
  have hnot := List.head?_dropWhile_not w.run.more.contains cs
  rw [Option.mem_def.1 hd] at hnot
  exact hnot

/-- A text is empty, or begins with a character that begins no word, or a word can be cut off. -/
theorem cuts_cases (words : List (Word κ)) (text : List Char) :
    text = [] ∨ (∃ c cs, text = c :: cs ∧ of? words c = none) ∨
      ∃ w piece rest, text = piece ++ rest ∧ Cuts words w piece rest := by
  rcases text with _ | ⟨c, cs⟩
  · exact .inl rfl
  cases hw : of? words c with
  | none => exact .inr (.inl ⟨c, cs, rfl, hw⟩)
  | some w =>
    refine .inr (.inr ⟨w, _, _, ?_, cuts_takeWhile hw cs⟩)
    rw [List.cons_append, List.takeWhile_append_dropWhile]

end Word

/-! ## What comes of a text -/

/-- What comes of a text: its tokens, and where it is stuck. -/
structure Yield (κ : Type) where
  /-- the tokens -/
  tokens : List (Token κ)
  /-- the offset at which no rule takes anything -/
  stuck : Option Nat

namespace Yield

/-- With tokens that were made before. -/
def behind (first : List (Token κ)) (y : Yield κ) : Yield κ := ⟨first ++ y.tokens, y.stuck⟩

/-- Some bytes further on. -/
def moved (n : Nat) (y : Yield κ) : Yield κ := ⟨y.tokens.map (Token.moved n), y.stuck.map (n + ·)⟩

end Yield

/-- What comes of what a scan has found. -/
def Scan.yield (s : Scan κ) : Yield κ := ⟨s.tokens, s.stuck⟩

/-- What comes of a text that begins at an offset. -/
def Lexer.yieldFrom (l : Lexer κ) (start : Nat) (rest : List Char) : Yield κ :=
  (l.scanFrom start (.start rest)).yield

/-! ## Lexers of words -/

/-- The rule is that of a word. -/
structure CompiledRule.Reads (r : CompiledRule κ) (w : Word κ) : Prop where
  takes : r.pattern.Takes w.run
  action : r.action = w.action

/-- The rules of the lexer are those of the words. -/
def Lexer.Reads (l : Lexer κ) (words : List (Word κ)) : Prop :=
  List.Forall₂ CompiledRule.Reads l.rules words

namespace Lexer

variable {l : Lexer κ} {text : String} {words : List (Word κ)} {w : Word κ}
  {piece rest : List Char} {c : Char} {p : Nat}

theorem scanFrom_nil (l : Lexer κ) (start : Nat) (prev : Option Char) :
    l.scanFrom start ⟨prev, []⟩ = ⟨[], none⟩ := by
  rw [scanFrom]
  exact dif_pos rfl

@[simp] theorem yieldFrom_nil (l : Lexer κ) (start : Nat) : l.yieldFrom start [] = ⟨[], none⟩ := by
  rw [yieldFrom, Place.start, scanFrom_nil]
  rfl

/-- Which rule takes something, and how much, is told by the first character. -/
theorem map_firstHit? {rules : List (CompiledRule κ)}
    (h : List.Forall₂ CompiledRule.Reads rules words) (prev : Option Char) (c : Char)
    (cs : List Char) (index : Nat) :
    (firstHit? ⟨prev, c :: cs⟩ index rules).map (fun hit => (hit.rule.action, hit.length)) =
      (Word.of? words c).map fun w =>
        (w.action, (cs.takeWhile w.run.more.contains).length + 1) := by
  induction h generalizing index with
  | nil => rfl
  | @cons r v rules words hr _ ih =>
    have hlength : r.pattern.preferred? ⟨prev, c :: cs⟩ = if v.run.first.contains c then
        some ((cs.takeWhile v.run.more.contains).length + 1) else none := hr.takes _
    rw [firstHit?, hlength, Word.of?, List.find?_cons]
    cases v.run.first.contains c with
    | true => exact congrArg (fun action => some (action, _)) hr.action
    | false => exact ih (index + 1)

namespace Reads

theorem looksAhead (hl : l.Reads words) : l.LooksAhead := by
  have hall := hl.imp fun _ _ (hr : CompiledRule.Reads _ _) => And.intro hr.takes.looksAhead hr
  exact ((List.forall₂_and_left _ _).1 hall).1

/-- The scan goes on behind a word that is cut off. -/
theorem exists_scanFrom_append (hl : l.Reads words) (h : Word.Cuts words w piece rest)
    (start : Nat) (prev : Option Char) :
    ∃ index, l.scanFrom start ⟨prev, piece ++ rest⟩ =
      (l.scanFrom (start + Text.byteLength piece) (.start rest)).behind
        [⟨index, w.action, start, String.ofList piece⟩] := by
  obtain @⟨c, cs, _, hbegins, hmore, hends⟩ := h
  have hmap := map_firstHit? hl prev c (cs ++ rest) 0
  rw [hbegins, Option.map_some, Word.takeWhile_append_eq hmore hends] at hmap
  obtain ⟨hit, hhit, heq⟩ := Option.map_eq_some_iff.1 hmap
  obtain ⟨haction, hlength⟩ := Prod.mk.inj heq
  have hhit : l.hit? ⟨prev, c :: (cs ++ rest)⟩ = some hit := hhit
  have htake : (c :: (cs ++ rest)).take hit.length = c :: cs := by
    rw [hlength, List.take_succ_cons, List.take_left]
  have hrest : (Place.skip hit.length ⟨prev, c :: (cs ++ rest)⟩).rest = rest := by
    rw [Place.rest_skip, hlength, List.drop_succ_cons, List.drop_left]
  refine ⟨hit.index, ?_⟩
  rw [List.cons_append, scanFrom, dif_neg (List.cons_ne_nil _ _), hhit]
  dsimp only
  rw [htake, haction, hl.looksAhead.scanFrom_congr _ (b := .start rest) hrest]
  rfl

/-- Where no word begins the scan is stuck. -/
theorem scanFrom_of_none (hl : l.Reads words) (hw : Word.of? words c = none) (start : Nat)
    (prev : Option Char) (cs : List Char) :
    l.scanFrom start ⟨prev, c :: cs⟩ = ⟨[], some start⟩ := by
  have hmap := map_firstHit? hl prev c cs 0
  rw [hw, Option.map_none, Option.map_eq_none_iff] at hmap
  have hhit : l.hit? ⟨prev, c :: cs⟩ = none := hmap
  rw [scanFrom, dif_neg (List.cons_ne_nil _ _), hhit]

/-! ### What comes of a text -/

/-- A text has the token of its first word, and the tokens of what is behind it. -/
theorem yieldFrom_append (hl : l.Reads words) (h : Word.Cuts words w piece rest) (start : Nat) :
    l.yieldFrom start (piece ++ rest) =
      (l.yieldFrom (start + Text.byteLength piece) rest).behind (w.token? start piece).toList := by
  obtain ⟨index, hscan⟩ := hl.exists_scanFrom_append h start none
  rw [yieldFrom, Scan.yield, Place.start, hscan, Scan.tokens_behind, List.filterMap_cons,
    List.filterMap_nil, w.token?_segment]
  cases w.token? start piece <;> rfl

/-- Of a word that is skipped nothing comes. -/
theorem yieldFrom_append_of_none (hl : l.Reads words) (h : Word.Cuts words w piece rest)
    (hw : w.kind = none) (start : Nat) :
    l.yieldFrom start (piece ++ rest) = l.yieldFrom (start + Text.byteLength piece) rest := by
  rw [hl.yieldFrom_append h, Word.token?, hw]
  rfl

/-- If a word that is skipped goes on with what it begins with, then it can be skipped character by
character. -/
theorem yieldFrom_cons_of_skip (hl : l.Reads words) {s : CharSet}
    (hs : ∀ c, s.contains c = true → Word.of? words c = some ⟨⟨s, s⟩, none⟩)
    (hc : s.contains c = true) (start : Nat) (rest : List Char) :
    l.yieldFrom start (c :: rest) = l.yieldFrom (start + c.utf8Size) rest := by
  have hrun {d : Char} (hd : s.contains d = true) (cs : List Char) (p : Nat) :
      l.yieldFrom p (d :: cs) =
        l.yieldFrom (p + Text.byteLength (d :: cs.takeWhile s.contains))
          (cs.dropWhile s.contains) := by
    have hyield := hl.yieldFrom_append_of_none (Word.cuts_takeWhile (hs d hd) cs) rfl p
    rwa [List.cons_append, List.takeWhile_append_dropWhile] at hyield
  rw [hrun hc]
  cases rest with
  | nil => rfl
  | cons d ds =>
    cases hd : s.contains d with
    | true =>
      -- the run from the next character on ends where this one does
      rw [hrun hd, List.takeWhile_cons_of_pos hd, List.dropWhile_cons_of_pos hd,
        Text.byteLength_cons, Nat.add_assoc]
    | false =>
      rw [List.takeWhile_cons_of_neg (by simp [hd]), List.dropWhile_cons_of_neg (by simp [hd])]
      rfl

/-- Where a text stands has no say in what comes of it. -/
theorem yieldFrom_add (hl : l.Reads words) (n start : Nat) (rest : List Char) :
    l.yieldFrom (n + start) rest = (l.yieldFrom start rest).moved n := by
  have hscan := hl.looksAhead.scanFrom_add n start (a := .start rest) rfl
  rw [yieldFrom, Scan.yield, hscan, Scan.tokens_moved]
  rfl

/-! ### Where a scan comes to -/

theorem exists_cut_of_mem (hl : l.Reads words) {start : Nat} {g : Segment κ} {cs : List Char}
    (hg : g ∈ (l.scanFrom start (.start cs)).segments) :
    ∃ before after, cs = before ++ after ∧ start + Text.byteLength before = g.stop ∧
      Word.Cut words before after := by
  induction hn : cs.length using Nat.strong_induction_on generalizing start cs with
  | _ n ih =>
    obtain rfl | ⟨c, cs, rfl, hw⟩ | ⟨w, piece, rest, rfl, hcuts⟩ := Word.cuts_cases words cs
    · rw [Place.start, scanFrom_nil] at hg
      cases hg
    · rw [Place.start, hl.scanFrom_of_none hw] at hg
      cases hg
    · obtain ⟨index, hscan⟩ := hl.exists_scanFrom_append hcuts start none
      rw [Place.start, hscan] at hg
      obtain rfl | hg := List.mem_cons.1 hg
      · refine ⟨piece, rest, rfl, ?_, ?_⟩
        · rw [Segment.stop, String.toList_ofList]
        · have hcut : Word.Cut words (piece ++ []) rest := .cons hcuts (.nil rest)
          rwa [List.append_nil] at hcut
      · have hlt : rest.length < n := by
          have := List.length_pos_iff.2 hcuts.ne_nil
          rw [← hn, List.length_append]
          omega
        obtain ⟨before, after, rfl, hbytes, hcut⟩ := ih _ hlt hg rfl
        refine ⟨piece ++ before, after, (List.append_assoc _ _ _).symm, ?_, .cons hcuts hcut⟩
        rw [Text.byteLength_append, ← Nat.add_assoc, hbytes]

/-- **Where a scan comes to, words have been cut off up to there.** -/
theorem exists_cut (hl : l.Reads words) (hp : l.Reaches text p) :
    ∃ before after, text.toList = before ++ after ∧ Text.byteLength before = p ∧
      Word.Cut words before after := by
  obtain rfl | ⟨g, hg, rfl⟩ := hp
  · exact ⟨[], text.toList, rfl, rfl, .nil _⟩
  · obtain ⟨before, after, htext, hbytes, hcut⟩ := hl.exists_cut_of_mem hg
    exact ⟨before, after, htext, by rw [← hbytes, Nat.zero_add], hcut⟩

end Reads

end Lexer

/-- A lexicon is compiled to a lexer of words if its patterns take the runs of the words, and its
actions are what is done with the words. -/
theorem Lexicon.reads_of_compile {a : Lexicon κ} {l : Lexer κ} {words : List (Word κ)}
    (hl : a.compile = .ok l)
    (hruns : (a.rules.map fun r =>
      (Pattern.compile a.ignoreCase r.pattern).toOption.bind Pattern.run?) =
        words.map fun w => some w.run)
    (hactions : a.rules.map Rule.action = words.map Word.action) : l.Reads words := by
  obtain ⟨-, hrules⟩ := compile_eq_ok_iff.1 hl
  unfold Lexer.Reads
  generalize l.rules = compiled at hrules ⊢
  generalize a.rules = rules at hrules hruns hactions
  induction hrules generalizing words with
  | nil =>
    obtain rfl := List.map_eq_nil_iff.1 hactions.symm
    exact .nil
  | cons hr _ ih =>
    cases words with
    | nil => cases hactions
    | cons w words =>
      obtain ⟨hrun, hruns⟩ := List.cons.inj hruns
      obtain ⟨haction, hactions⟩ := List.cons.inj hactions
      beta_reduce at hrun
      rw [hr.pattern] at hrun
      exact .cons ⟨Pattern.takes_of_run? hrun, hr.action.trans haction⟩ (ih hruns hactions)

end Descent
