import Descent.Proofs.CharSet.Proper
import Descent.Proofs.Pattern.Forms

/-!
# The normal form keeps the language

The functions that build forms join what stands side by side, move out what a choice has in common,
make one set of several and leave out repetitions that repeat nothing. None of this changes what
matches: a sequence of forms matches what they match one after the other
(`Form.language_sequence`), a choice what one of them matches (`Form.language_choice`), and a
repetition what its part matches so many times (`Form.language_repeated`).

For choices and sets this takes sets that are proper, and for repetitions it takes counts that are
in order (`Form.Proper`).
-/

namespace Descent.Pattern

open Pattern.Language

/-- The sets of a form are proper, and no part of it is to come more often at least than at most. -/
def Form.Proper : Form → Prop
  | .empty | .literal _ | .look _ => True
  | .set s => s.Proper
  | .repetition min max _ sub => (∀ m ∈ max, min ≤ m) ∧ sub.Proper
  | .capture _ sub => sub.Proper
  | .seq a b | .alt a b => a.Proper ∧ b.Proper

namespace Form

variable {f : Form} {fs : List Form} {s : CharSet}

/-! ## Sets -/

/-- A set matches its characters, also if it is the form of its only one. -/
theorem language_ofSet (hs : s.Proper) : (ofSet s).language = char s.contains := by
  unfold ofSet
  split
  · rename_i c hsingle
    rw [hs.eq_single hsingle, char_single, language, text, text, seq_unit]
  · rfl

theorem proper_ofSet (hs : s.Proper) : (ofSet s).Proper := by
  unfold ofSet
  split
  · trivial
  · exact hs

/-! ## Sequences -/

/-- A form matches what the parts of its sequence do, one after the other. -/
theorem seqs_parts (f : Form) : seqs (f.parts.map language) = f.language := by
  fun_induction parts f with
  | case1 => rfl
  | case2 a b ih => rw [List.map_cons, seqs, ih, language]
  | case3 f => exact seq_unit _

/-- Sequences in a sequence may be taken apart. -/
theorem seqs_flatMap_parts (fs : List Form) :
    seqs ((fs.flatMap parts).map language) = seqs (fs.map language) := by
  induction fs with
  | nil => rfl
  | cons f fs ih =>
    rw [List.flatMap_cons, List.map_append, seqs_append, seqs_parts, ih, List.map_cons, seqs]

/-- Literals side by side match what the joined one does. -/
theorem seqs_joinLiterals (fs : List Form) :
    seqs ((joinLiterals fs).map language) = seqs (fs.map language) := by
  fun_induction joinLiterals fs with
  | case1 => rfl
  | case2 a fs b rest hrest ih =>
    rw [hrest, List.map_cons, seqs, language] at ih
    rw [List.map_cons, seqs, language, text_append, seq_assoc, ih, List.map_cons, seqs, language]
  | case3 a fs hrest ih => rw [List.map_cons, seqs, ih, List.map_cons, seqs]
  | case4 f fs hliteral ih => rw [List.map_cons, seqs, ih, List.map_cons, seqs]

/-- A sequence that is put together from parts matches what they do, one after the other. -/
theorem language_ofParts (fs : List Form) : (ofParts fs).language = seqs (fs.map language) := by
  fun_induction ofParts fs with
  | case1 => rfl
  | case2 f => exact (seq_unit _).symm
  | case3 f fs hfs ih => rw [language, ih, List.map_cons, seqs]

/-- **A sequence matches what its parts match, one after the other.** -/
theorem language_sequence (fs : List Form) : (sequence fs).language = seqs (fs.map language) := by
  rw [sequence, language_ofParts, seqs_joinLiterals, seqs_flatMap_parts]

/-- The parts of a proper form are proper. -/
theorem Proper.parts (h : f.Proper) : ∀ g ∈ f.parts, g.Proper := by
  fun_induction Form.parts f with
  | case1 => nofun
  | case2 a b ih => exact List.forall_mem_cons.2 ⟨h.1, ih h.2⟩
  | case3 f => exact List.forall_mem_singleton.2 h

/-- A literal is proper whatever is joined in it. -/
theorem proper_joinLiterals (h : ∀ f ∈ fs, f.Proper) : ∀ f ∈ joinLiterals fs, f.Proper := by
  fun_induction joinLiterals fs with
  | case1 => exact h
  | case2 a fs b rest hrest ih =>
    have hfs := ih (List.forall_mem_cons.1 h).2
    rw [hrest] at hfs
    exact List.forall_mem_cons.2 ⟨trivial, (List.forall_mem_cons.1 hfs).2⟩
  | case3 a fs hrest ih => exact List.forall_mem_cons.2 ⟨trivial, ih (List.forall_mem_cons.1 h).2⟩
  | case4 f fs hliteral ih =>
    obtain ⟨hf, hfs⟩ := List.forall_mem_cons.1 h
    exact List.forall_mem_cons.2 ⟨hf, ih hfs⟩

theorem proper_ofParts (h : ∀ f ∈ fs, f.Proper) : (ofParts fs).Proper := by
  fun_induction ofParts fs with
  | case1 => trivial
  | case2 f => exact List.forall_mem_singleton.1 h
  | case3 f fs hfs ih =>
    obtain ⟨hf, hfs⟩ := List.forall_mem_cons.1 h
    exact ⟨hf, ih hfs⟩

/-- A sequence of proper forms is proper. -/
theorem proper_sequence (h : ∀ f ∈ fs, f.Proper) : (sequence fs).Proper := by
  refine proper_ofParts (proper_joinLiterals fun g hg => ?_)
  obtain ⟨f, hf, hg⟩ := List.mem_flatMap.1 hg
  exact (h f hf).parts g hg

/-! ## Choices -/

section Lists

variable {α β γ : Type} {l : List α} {bs : List β}

/-- What is the same on both sides of a function is the same on both sides of a list of its
values. -/
theorem map_eq_of_mapM {g : α → Option β} {u : α → γ} {v : β → γ} (h : l.mapM g = some bs)
    (hg : ∀ a b, g a = some b → u a = v b) : l.map u = bs.map v := by
  induction l generalizing bs with
  | nil =>
    obtain rfl := Option.some.inj h
    rfl
  | cons a l ih =>
    rw [List.mapM_cons] at h
    obtain ⟨b, hb, h⟩ := Option.bind_eq_some_iff.1 h
    obtain ⟨bs', hbs, h⟩ := Option.bind_eq_some_iff.1 h
    obtain rfl := Option.some.inj h
    rw [List.map_cons, List.map_cons, hg a b hb, ih hbs]

/-- Each result for a list is the result for one of its members. -/
theorem exists_mem_of_mapM {g : α → Option β} (h : l.mapM g = some bs) :
    ∀ b ∈ bs, ∃ a ∈ l, g a = some b := by
  induction l generalizing bs with
  | nil =>
    obtain rfl := Option.some.inj h
    nofun
  | cons a l ih =>
    rw [List.mapM_cons] at h
    obtain ⟨b, hb, h⟩ := Option.bind_eq_some_iff.1 h
    obtain ⟨bs', hbs, h⟩ := Option.bind_eq_some_iff.1 h
    obtain rfl := Option.some.inj h
    refine List.forall_mem_cons.2 ⟨⟨a, .head l, hb⟩, fun b' hb' => ?_⟩
    obtain ⟨a', ha', hb'⟩ := ih hbs b' hb'
    exact ⟨a', .tail a ha', hb'⟩

end Lists

/-- A form matches what one of the branches of its choice does. -/
theorem alts_branches (f : Form) : alts (f.branches.map language) = f.language := by
  fun_induction branches f with
  | case1 a b ih => rw [List.map_cons, alts_cons, ih, language]
  | case2 f => exact alts_singleton _

/-- Choices in a choice may be taken apart. -/
theorem alts_flatMap_branches (fs : List Form) :
    alts ((fs.flatMap branches).map language) = alts (fs.map language) := by
  induction fs with
  | nil => rfl
  | cons f fs ih =>
    rw [List.flatMap_cons, List.map_append, alts_append, alts_branches, ih, List.map_cons,
      alts_cons]

theorem Proper.branches (h : f.Proper) : ∀ g ∈ f.branches, g.Proper := by
  fun_induction Form.branches f with
  | case1 a b ih => exact List.forall_mem_cons.2 ⟨h.1, ih h.2⟩
  | case2 f => exact List.forall_mem_singleton.2 h

/-- One character of an empty set is one of no forms. -/
theorem language_set_empty : (set CharSet.empty).language = alts [] := by
  have hnone (c : Char) : CharSet.empty.contains c = true ↔
      ∃ t ∈ ([] : List (Char → Bool)), t c = true :=
    iff_of_false Bool.false_ne_true fun ⟨_, ht, _⟩ => List.not_mem_nil ht
  exact (alts_char hnone).symm

/-- A choice that is put together from branches matches what one of them does. -/
theorem language_ofBranches (fs : List Form) :
    (ofBranches fs).language = alts (fs.map language) := by
  fun_induction ofBranches fs with
  | case1 => exact language_set_empty
  | case2 f => exact (alts_singleton _).symm
  | case3 f fs hfs ih => rw [language, ih, List.map_cons, alts_cons]

/-- A choice between proper forms is proper, also if there is none to choose from. -/
theorem proper_ofBranches (h : ∀ f ∈ fs, f.Proper) : (ofBranches fs).Proper := by
  fun_induction ofBranches fs with
  | case1 => exact CharSet.proper_empty
  | case2 f => exact List.forall_mem_singleton.1 h
  | case3 f fs hfs ih =>
    obtain ⟨hf, hfs⟩ := List.forall_mem_cons.1 h
    exact ⟨hf, ih hfs⟩

/-- One character of one of some sets is one of their union. -/
theorem language_ofSet_unions {sets : List CharSet} (h : ∀ s ∈ sets, s.Proper) :
    (ofSet (CharSet.unions sets)).language = alts (sets.map fun s => char s.contains) := by
  rw [language_ofSet (CharSet.proper_unions h)]
  have hsets : sets.map (fun s => char s.contains) = (sets.map CharSet.contains).map char :=
    (List.map_map ..).symm
  rw [hsets]
  refine (alts_char fun c => ?_).symm
  simp only [CharSet.contains_unions h, List.mem_map, exists_exists_and_eq_and]

/-- A form that is a single character matches what the set of that character does. -/
theorem char?_eq_some {c : Char} (h : f.char? = some c) :
    f.language = char (CharSet.single c).contains := by
  unfold char? at h
  split at h
  · obtain rfl := Option.some.inj h
    rw [char_single, language, text, text, seq_unit]
  · cases h

/-- A form that is seen as a set is one. -/
theorem set?_eq_some (h : f.set? = some s) : f = set s := by
  unfold set? at h
  split at h
  · rw [Option.some.inj h]
  · cases h

/-- A choice between parts that are no choices matches what one of them does. -/
theorem choiceOfBranches_keeps (h : ∀ f ∈ fs, f.Proper) :
    (choiceOfBranches fs).Proper ∧ (choiceOfBranches fs).language = alts (fs.map language) := by
  fun_cases choiceOfBranches fs with
  | case1 => exact ⟨CharSet.proper_empty, language_set_empty⟩
  | case2 f => exact ⟨List.forall_mem_singleton.1 h, (alts_singleton _).symm⟩
  | case3 fs hnil hone cs hcs =>
    refine ⟨proper_ofSet (CharSet.proper_ofList cs), ?_⟩
    have hfs : fs.map language = cs.map fun c => char (CharSet.single c).contains :=
      map_eq_of_mapM hcs fun _ _ => char?_eq_some
    rw [CharSet.ofList, language_ofSet_unions (CharSet.proper_singles cs), List.map_map, hfs]
    rfl
  | case4 fs hnil hone hcs sets hsets =>
    have hproper : ∀ s ∈ sets, s.Proper := by
      intro s hs
      obtain ⟨f, hf, hset⟩ := exists_mem_of_mapM hsets s hs
      obtain rfl := set?_eq_some hset
      exact h _ hf
    refine ⟨proper_ofSet (CharSet.proper_unions hproper), ?_⟩
    rw [language_ofSet_unions hproper]
    refine (map_eq_of_mapM hsets fun f s hset => ?_).symm ▸ rfl
    rw [set?_eq_some hset, language]
  | case5 fs hnil hone hcs hsets => exact ⟨proper_ofBranches h, language_ofBranches fs⟩

/-! ## What the parts of a choice have in common -/

/-- The first list begins with what both have in common. -/
theorem commonPrefix_prefix_left (as bs : List Form) : commonPrefix as bs <+: as := by
  fun_induction commonPrefix as bs with
  | case1 as a bs ih => exact (List.prefix_cons_inj a).2 ih
  | case2 => exact List.nil_prefix
  | case3 => exact List.nil_prefix

/-- The second list begins with what both have in common. -/
theorem commonPrefix_prefix_right (as bs : List Form) : commonPrefix as bs <+: bs := by
  fun_induction commonPrefix as bs with
  | case1 as a bs ih => exact (List.prefix_cons_inj a).2 ih
  | case2 => exact List.nil_prefix
  | case3 => exact List.nil_prefix

/-- All of the lists begin with their common beginning. -/
theorem foldl_commonPrefix_prefix (first : List Form) (rest : List (List Form)) :
    ∀ parts ∈ first :: rest, rest.foldl commonPrefix first <+: parts := by
  induction rest generalizing first with
  | nil => exact List.forall_mem_singleton.2 (List.prefix_rfl)
  | cons second rest ih =>
    obtain ⟨hfirst, hrest⟩ := List.forall_mem_cons.1 (ih (commonPrefix first second))
    refine List.forall_mem_cons.2 ⟨hfirst.trans (commonPrefix_prefix_left _ _), ?_⟩
    exact List.forall_mem_cons.2 ⟨hfirst.trans (commonPrefix_prefix_right _ _), hrest⟩

/-- A sequence that is seen by its parts has no others. -/
theorem seqParts?_eq_some {parts : List Form} (h : f.seqParts? = some parts) : parts = f.parts := by
  unfold seqParts? at h
  split at h
  · exact (Option.some.inj h).symm
  · cases h

/-- What all the parts of a choice begin with comes first, and then one of what follows it. -/
theorem splitCommon_keeps {common rest : List Form} (h : ∀ f ∈ fs, f.Proper)
    (hsplit : splitCommon fs = some (common, rest)) :
    (∀ f ∈ common, f.Proper) ∧ (∀ f ∈ rest, f.Proper) ∧
      alts (fs.map language) = (seqs (common.map language)).seq (alts (rest.map language)) := by
  unfold splitCommon at hsplit
  split at hsplit
  · rename_i first more hparts
    dsimp only at hsplit
    split at hsplit
    · cases hsplit
    obtain ⟨rfl, rfl⟩ := Prod.mk.inj (Option.some.inj hsplit)
    have hbegins := foldl_commonPrefix_prefix first more
    have hproper : ∀ parts ∈ first :: more, ∀ f ∈ parts, f.Proper := by
      intro parts hmem
      obtain ⟨f, hf, hg⟩ := exists_mem_of_mapM hparts parts hmem
      rw [seqParts?_eq_some hg]
      exact (h f hf).parts
    have hfs : fs.map language = (first :: more).map fun parts => seqs (parts.map language) :=
      map_eq_of_mapM hparts fun f parts hg => by rw [seqParts?_eq_some hg, seqs_parts]
    refine ⟨fun f hf => ?_, fun g hg => ?_, ?_⟩
    · exact hproper first (.head _) f ((hbegins first (.head _)).subset hf)
    · obtain ⟨parts, hmem, rfl⟩ := List.mem_map.1 hg
      exact proper_sequence fun f hf => hproper parts hmem f (List.mem_of_mem_drop hf)
    · rw [hfs, seq_alts, List.map_map, List.map_map]
      refine congrArg alts (List.map_congr_left fun parts hmem => ?_)
      rw [Function.comp_apply, Function.comp_apply, language_sequence, ← seqs_append,
        ← List.map_append, List.prefix_iff_eq_append.1 (hbegins parts hmem)]
  · cases hsplit

/-- A choice between any parts, those of a choice among them taken for themselves. -/
theorem choiceOfBranches_flatMap_keeps (h : ∀ f ∈ fs, f.Proper) :
    (choiceOfBranches (fs.flatMap branches)).Proper ∧
      (choiceOfBranches (fs.flatMap branches)).language = alts (fs.map language) := by
  rw [← alts_flatMap_branches]
  refine choiceOfBranches_keeps fun g hg => ?_
  obtain ⟨f, hf, hg⟩ := List.mem_flatMap.1 hg
  exact (h f hf).branches g hg

/-- However often a common beginning is moved out, what matches is the same. -/
theorem choiceWithin_keeps (n : Nat) (h : ∀ f ∈ fs, f.Proper) :
    (choiceWithin n fs).Proper ∧ (choiceWithin n fs).language = alts (fs.map language) := by
  induction n generalizing fs with
  | zero => exact choiceOfBranches_flatMap_keeps h
  | succ n ih =>
    obtain ⟨hproper, hlanguage⟩ := choiceOfBranches_flatMap_keeps h
    rw [choiceWithin]
    split
    · rename_i a b heq
      rw [heq] at hproper hlanguage
      split
      · rename_i common rest hsplit
        obtain ⟨hcommon, hrest, hkeeps⟩ := splitCommon_keeps hproper.branches hsplit
        obtain ⟨hmoved, hchoice⟩ := ih hrest
        refine ⟨proper_sequence (List.forall_mem_append.2
          ⟨hcommon, List.forall_mem_singleton.2 hmoved⟩), ?_⟩
        rw [language_sequence, List.map_append, seqs_append, List.map_singleton, seqs, seqs,
          seq_unit, hchoice, ← hkeeps, alts_branches, hlanguage]
      · exact ⟨hproper, hlanguage⟩
    · exact ⟨hproper, hlanguage⟩

theorem proper_choice (h : ∀ f ∈ fs, f.Proper) : (choice fs).Proper := (choiceWithin_keeps _ h).1

/-- **A choice matches what one of its parts does.** -/
theorem language_choice (h : ∀ f ∈ fs, f.Proper) :
    (choice fs).language = alts (fs.map language) := (choiceWithin_keeps _ h).2

/-! ## Repetitions -/

/-- What has no length does not move. -/
theorem still_of_maxLength (hf : f.Proper) (hlength : f.maxLength = some 0) : f.language.Still := by
  induction f with
  | empty => exact fun _ _ h => h
  | literal text =>
    obtain rfl := List.length_eq_zero_iff.1 (Option.some.inj hlength)
    exact fun _ _ h => h
  | set s =>
    unfold maxLength at hlength
    split at hlength <;> cases hlength
  | look l => exact fun _ _ h => h.2
  | repetition min max greedy sub ih =>
    obtain ⟨hcount, hsub⟩ := hf
    unfold maxLength at hlength
    split at hlength
    · rename_i n m hm
      obtain rfl | rfl := Nat.mul_eq_zero.1 (Option.some.inj hlength)
      · have hstill := ih hsub hm
        rw [language, hstill.repeated_eq]
        exact hstill.times min
      · obtain rfl := Nat.le_zero.1 (hcount 0 rfl)
        rw [language, repeated_zero, upTo_zero]
        exact fun _ _ h => h
    · cases hlength
  | capture index sub ih => exact ih hf hlength
  | seq a b iha ihb =>
    unfold maxLength at hlength
    split at hlength
    · rename_i m n hm hn
      obtain ⟨rfl, rfl⟩ := Nat.add_eq_zero_iff.1 (Option.some.inj hlength)
      exact (iha hf.1 hm).seq (ihb hf.2 hn)
    · cases hlength
  | alt a b iha ihb =>
    unfold maxLength at hlength
    split at hlength
    · rename_i m n hm hn
      obtain ⟨rfl, rfl⟩ : m = 0 ∧ n = 0 := by
        have := Option.some.inj hlength
        omega
      rintro p q (h | h)
      · exact iha hf.1 hm p q h
      · exact ihb hf.2 hn p q h
    · cases hlength

/-- Counts that are cut down since there is no length to repeat are in order, and they say the
same. -/
theorem counts_keep {min min' : Nat} {max max' : Option Nat} (hcount : ∀ m ∈ max, min ≤ m)
    (hf : f.Proper)
    (h : (if f.maxLength = some 0 then (Nat.min min 1, some ((max.map (Nat.min · 1)).getD 1))
      else (min, max)) = (min', max')) :
    (∀ m ∈ max', min' ≤ m) ∧ f.language.repeated min' max' = f.language.repeated min max := by
  split at h
  · rename_i hlength
    obtain ⟨rfl, rfl⟩ := Prod.mk.inj h
    have hstill := still_of_maxLength hf hlength
    refine ⟨fun m hm => ?_, ?_⟩
    · obtain rfl := Option.some.inj hm
      cases max with
      | none => exact Nat.min_le_right min 1
      | some m =>
        have hle : Nat.min min 1 ≤ m := Nat.le_trans (Nat.min_le_left min 1) (hcount m rfl)
        exact Nat.le_min.2 ⟨hle, Nat.min_le_right min 1⟩
    · rw [hstill.repeated_eq, hstill.repeated_eq, hstill.times_min_one]
  · obtain ⟨rfl, rfl⟩ := Prod.mk.inj h
    exact ⟨hcount, rfl⟩

/-- **A repetition matches what its part matches so many times.** -/
theorem language_repeated {min : Nat} {max : Option Nat} (hcount : ∀ m ∈ max, min ≤ m)
    (hf : f.Proper) (greedy : Bool) :
    (repeated min max greedy f).language = f.language.repeated min max := by
  fun_cases repeated min max greedy f with
  | case1 min' max' hpair hnone =>
    obtain ⟨rfl, rfl⟩ := hnone
    rw [← (counts_keep hcount hf hpair).2, repeated_zero, upTo_zero, language]
  | case2 min' max' hpair hsome hone =>
    obtain ⟨rfl, rfl⟩ := hone
    rw [← (counts_keep hcount hf hpair).2, repeated_self, times_one]
  | case3 min' max' hpair hsome hmore => rw [language, (counts_keep hcount hf hpair).2]

/-- A repetition of a proper form is proper, if its counts are in order. -/
theorem proper_repeated {min : Nat} {max : Option Nat} (hcount : ∀ m ∈ max, min ≤ m)
    (hf : f.Proper) (greedy : Bool) : (repeated min max greedy f).Proper := by
  fun_cases repeated min max greedy f with
  | case1 => trivial
  | case2 => exact hf
  | case3 min' max' hpair hsome hmore => exact ⟨(counts_keep hcount hf hpair).1, hf⟩

end Form

end Descent.Pattern
