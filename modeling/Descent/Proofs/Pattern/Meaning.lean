import Descent.Pattern.Meaning
import Descent.Proofs.Pattern.NormalForm
import Descent.Proofs.Unicode.Sets

/-!
# What the syntax matches

What a part of a pattern matches can be said without forms (`Ast.language`): the flags in force go
along from part to part, a part that stands for one character matches the characters of its set, and
the rest is put together as it is written. A part that has a form matches what its form does
(`Ast.form_denotes`), if its counts are in order (`Ast.Counted`), as those of a pattern that can be
read are.
-/

namespace Descent

/-- Of two steps that may fail, neither has failed if there is a result. -/
theorem bind_eq_ok_iff {ε α β : Type} {x : Except ε α} {f : α → Except ε β} {b : β} :
    x >>= f = .ok b ↔ ∃ a, x = .ok a ∧ f a = .ok b := by
  cases x with
  | error e => exact iff_of_false nofun fun ⟨_, h, _⟩ => nomatch h
  | ok a => exact ⟨fun h => ⟨a, rfl, h⟩, fun ⟨_, h, hf⟩ => Except.ok.inj h ▸ hf⟩

namespace Pattern

/-! ## The language of a part -/

/-- The characters that a literal matches. -/
def Literal.cases (f : Flags) (l : Literal) : CharSet :=
  if f.unicode ∨ l.char.toNat < 0x80 then f.fold (.single l.char) else .single l.char

/-- Does a dot match the character? -/
def Flags.dot (f : Flags) (c : Char) : Bool :=
  f.dotAll || !(c == '\n' || (f.crlf && c == '\r'))

/-- One character of a set, if there is the set. -/
def Language.oneOf (s : Except Error CharSet) : Language := fun p q =>
  ∃ t, s = .ok t ∧ char t.contains p q

mutual

/-- The flags in force behind a part. -/
def Ast.after (f : Flags) : Ast → Flags
  | .flags _ items => f.apply items
  | .repetition _ _ _ _ sub => sub.after f
  | .alternation _ subs | .concat _ subs => partsAfter f subs
  | _ => f

/-- The flags in force behind some parts. -/
def partsAfter (f : Flags) : List Ast → Flags
  | [] => f
  | a :: subs => partsAfter (a.after f) subs

end

mutual

/-- What a part matches under some flags. -/
def Ast.language (f : Flags) : Ast → Language
  | .empty _ | .flags _ _ => .unit
  | .literal l => .char (l.cases f).contains
  | .dot _ => .char f.dot
  | .assertion _ kind => .look (kind.look f)
  | .property span negated query => .oneOf (propertySet f span negated query)
  | .shorthand span negated kind => .oneOf (f.close span negated (kind.set f.unicode))
  | .bracketed span negated set => .oneOf (do f.close span negated (f.fold (← set.chars f)))
  | .repetition _ min max _ sub => (sub.language f).repeated min max
  | .group _ (.capture _) sub => sub.language f
  | .group _ (.plain items) sub => sub.language (f.apply items)
  | .alternation _ subs => .alts (partLanguages f subs)
  | .concat _ subs => .seqs (partLanguages f subs)

/-- What some parts match, each with the flags in force behind the one before it. -/
def partLanguages (f : Flags) : List Ast → List Language
  | [] => []
  | a :: subs => a.language f :: partLanguages (a.after f) subs

end

mutual

/-- No part is to come more often at least than at most. -/
def Ast.Counted : Ast → Prop
  | .repetition _ min max _ sub => (∀ m ∈ max, min ≤ m) ∧ sub.Counted
  | .group _ _ sub => sub.Counted
  | .alternation _ subs | .concat _ subs => PartsCounted subs
  | _ => True

/-- None of the parts has one that is to come more often at least than at most. -/
def PartsCounted : List Ast → Prop
  | [] => True
  | a :: subs => a.Counted ∧ PartsCounted subs

end

/-! ## Sets of characters -/

section Sets

variable {f : Flags} {s t : CharSet}

/-- The flags add other cases of the characters to a set, if anything. -/
theorem Flags.proper_fold (f : Flags) (hs : s.Proper) : (f.fold s).Proper := by
  rw [fold]
  split
  · exact hs
  split
  · exact Unicode.proper_closeUnderCase hs
  · exact Unicode.proper_closeUnderAsciiCase hs

/-- What is not in a set is taken from all characters or from all bytes, and both are proper. -/
theorem Flags.proper_negate (f : Flags) (hs : s.Proper) : (f.negate s).Proper := by
  rw [negate]
  split
  · exact hs.complement
  · exact (CharSet.proper_range _ _).diff hs.rising

/-- A class that is not refused is the set or what is not in it, and both are proper. -/
theorem Flags.proper_of_close {span : Span} {negated : Bool} (hs : s.Proper)
    (h : f.close span negated s = .ok t) : t.Proper := by
  have hclosed : (if negated then f.negate s else s).Proper := by
    split
    · exact f.proper_negate hs
    · exact hs
  dsimp only [close] at h
  generalize (if negated then f.negate s else s) = u at h hclosed
  split at h
  · cases h
  · exact Except.ok.inj h ▸ hclosed

theorem proper_asciiWord : asciiWord.Proper := CharSet.proper_ofRanges _

/-- Named classes of ASCII are written down as ranges, or taken from such. -/
theorem Posix.proper_set (kind : Posix) : kind.set.Proper := by
  cases kind with
  | ascii | digit | lower | graph | print | upper => exact CharSet.proper_range _ _
  | alnum | alpha | cntrl | punct | space | xdigit => exact CharSet.proper_ofRanges _
  | blank => exact CharSet.proper_ofList _
  | word => exact proper_asciiWord

/-- The sets behind `\d`, `\s` and `\w` are proper, with Unicode and without. -/
theorem Shorthand.proper_set (kind : Shorthand) (unicode : Bool) : (kind.set unicode).Proper := by
  cases kind <;> cases unicode
  · exact Posix.digit.proper_set
  · exact Unicode.proper_decimalDigit
  · exact Posix.space.proper_set
  · exact Unicode.proper_whiteSpace
  · exact proper_asciiWord
  · exact Unicode.proper_word

/-- Whichever operation it is, it takes proper sets to a proper set. -/
theorem SetOp.proper_apply (op : SetOp) (hs : s.Proper) (ht : t.Proper) :
    (op.apply s t).Proper := by
  cases op with
  | intersection => exact hs.inter_left ht.rising
  | difference => exact hs.diff ht.rising
  | symmetricDifference => exact hs.zip rfl ht

/-- If there is an answer to what a pattern asks about a property, then it is a proper set. -/
theorem proper_of_propertySet {span : Span} {negated : Bool} {query : Unicode.Property}
    (h : propertySet f span negated query = .ok s) : s.Proper := by
  rw [propertySet] at h
  split at h
  · cases h
  split at h
  · cases h
  · cases h
  · rename_i t hlookup
    exact Flags.proper_of_close (f.proper_fold (Unicode.Property.proper_of_lookup hlookup)) h

mutual

/-- The set of an item in brackets is proper. The items in an item are smaller than it, so this goes
by recursion together with the next two. -/
theorem ClassItem.proper_of_chars {s : CharSet} :
    (i : ClassItem) → i.chars f = .ok s → s.Proper
  | .empty _, h => Except.ok.inj h ▸ CharSet.proper_empty
  | .literal l, h => by
    obtain ⟨c, -, h⟩ := bind_eq_ok_iff.1 h
    exact Except.ok.inj h ▸ CharSet.proper_single c
  | .range _ lo hi, h => by
    obtain ⟨c, -, h⟩ := bind_eq_ok_iff.1 h
    obtain ⟨d, -, h⟩ := bind_eq_ok_iff.1 h
    exact Except.ok.inj h ▸ CharSet.proper_range c d
  | .posix _ _ kind, h => Flags.proper_of_close (f.proper_fold kind.proper_set) h
  | .property _ _ _, h => proper_of_propertySet h
  | .shorthand _ _ kind, h => Flags.proper_of_close (kind.proper_set _) h
  | .bracketed _ _ set, h => by
    obtain ⟨t, ht, h⟩ := bind_eq_ok_iff.1 h
    exact Flags.proper_of_close (f.proper_fold (set.proper_of_chars ht)) h
  | .union _ items, h => proper_of_itemChars items h

/-- The set between brackets is proper, whether it is made of items or of two sets and an
operation. -/
theorem ClassSet.proper_of_chars {s : CharSet} :
    (set : ClassSet) → set.chars f = .ok s → s.Proper
  | .item i, h => i.proper_of_chars h
  | .binary _ op lhs rhs, h => by
    obtain ⟨l, hl, h⟩ := bind_eq_ok_iff.1 h
    obtain ⟨r, hr, h⟩ := bind_eq_ok_iff.1 h
    obtain rfl := Except.ok.inj h
    exact op.proper_apply (f.proper_fold (lhs.proper_of_chars hl))
      (f.proper_fold (rhs.proper_of_chars hr))

/-- The set of some items is the union of their sets, and so it is proper. -/
theorem proper_of_itemChars {s : CharSet} :
    (items : List ClassItem) → itemChars f items = .ok s → s.Proper
  | [], h => Except.ok.inj h ▸ CharSet.proper_empty
  | i :: items, h => by
    obtain ⟨t, ht, h⟩ := bind_eq_ok_iff.1 h
    obtain ⟨u, hu, h⟩ := bind_eq_ok_iff.1 h
    obtain rfl := Except.ok.inj h
    exact (i.proper_of_chars ht).union (proper_of_itemChars items hu)

end

end Sets

/-! ## Forms -/

variable {f f' : Flags} {form : Form} {forms : List Form} {s : CharSet}

/-- A form whose sets are proper matches what a language does. -/
structure Form.Denotes (form : Form) (language : Language) : Prop where
  proper : form.Proper
  language_eq : form.language = language

/-- The form of a literal means any case of the character that the flags allow. -/
theorem Literal.form_denotes {l : Literal} (h : l.form f = .ok form) :
    form.Denotes (.char (l.cases f).contains) := by
  rw [Literal.form] at h
  split at h
  · cases h
  obtain rfl := Except.ok.inj h
  have hproper : (l.cases f).Proper := by
    rw [Literal.cases]
    split
    · exact f.proper_fold (CharSet.proper_single l.char)
    · exact CharSet.proper_single l.char
  exact ⟨Form.proper_ofSet hproper, Form.language_ofSet hproper⟩

/-- The form of a dot means every character, or all but the line breaks that the flags name. -/
theorem dotForm_denotes {span : Span} (h : dotForm f span = .ok form) :
    form.Denotes (.char f.dot) := by
  have hset {s : CharSet} (hs : s.Proper) (hdot : ∀ c, s.contains c = f.dot c) :
      (Form.set s).Denotes (.char f.dot) := ⟨hs, congrArg Language.char (funext hdot)⟩
  rw [dotForm] at h
  split at h
  · cases h
  split at h
  · rename_i hall
    refine Except.ok.inj h ▸ hset CharSet.proper_all fun c => ?_
    rw [CharSet.contains_all, Flags.dot, hall, Bool.true_or]
  rename_i hall
  rw [Bool.not_eq_true] at hall
  split at h
  · rename_i hcrlf
    refine Except.ok.inj h ▸ hset (CharSet.proper_ofList _).complement fun c => ?_
    rw [CharSet.contains_complement (by decide), Flags.dot, hall, hcrlf, Bool.false_or,
      Bool.true_and]
    refine congrArg (!·) (Bool.eq_iff_iff.2 ?_)
    rw [CharSet.contains_ofList]
    simp only [List.mem_cons, List.not_mem_nil, or_false, Bool.or_eq_true, beq_iff_eq]
  · rename_i hcrlf
    rw [Bool.not_eq_true] at hcrlf
    refine Except.ok.inj h ▸ hset (CharSet.proper_single _).complement fun c => ?_
    rw [CharSet.contains_complement (by decide), Flags.dot, hall, hcrlf, Bool.false_or,
      Bool.false_and, Bool.or_false]
    refine congrArg (!·) (Bool.eq_iff_iff.2 ?_)
    rw [CharSet.contains_single, beq_iff_eq]

/-- The form of a proper set means any one of its characters. -/
theorem Form.ofSet_denotes {x : Except Error CharSet} (hs : s.Proper) (h : x = .ok s) :
    (Form.ofSet s).Denotes (.oneOf x) := by
  refine ⟨Form.proper_ofSet hs, ?_⟩
  rw [Form.language_ofSet hs]
  funext p q
  refine propext ⟨fun hread => ⟨s, h, hread⟩, ?_⟩
  rintro ⟨t, ht, hread⟩
  rw [h] at ht
  exact Except.ok.inj ht ▸ hread

mutual

/-- **A part that has a form matches what its form does.** -/
theorem Ast.form_denotes {f f' : Flags} {form : Form} :
    (a : Ast) → a.Counted → a.form f = .ok (form, f') → form.Denotes (a.language f) ∧ f' = a.after f
  | .empty _, _, h => by
    obtain ⟨rfl, rfl⟩ := Prod.mk.inj (Except.ok.inj h)
    exact ⟨⟨trivial, rfl⟩, rfl⟩
  | .flags _ items, _, h => by
    obtain ⟨rfl, rfl⟩ := Prod.mk.inj (Except.ok.inj h)
    exact ⟨⟨trivial, rfl⟩, rfl⟩
  | .literal l, _, h => by
    obtain ⟨g, hg, h⟩ := bind_eq_ok_iff.1 h
    obtain ⟨rfl, rfl⟩ := Prod.mk.inj (Except.ok.inj h)
    exact ⟨l.form_denotes hg, rfl⟩
  | .dot span, _, h => by
    obtain ⟨g, hg, h⟩ := bind_eq_ok_iff.1 h
    obtain ⟨rfl, rfl⟩ := Prod.mk.inj (Except.ok.inj h)
    exact ⟨dotForm_denotes hg, rfl⟩
  | .assertion _ kind, _, h => by
    obtain ⟨rfl, rfl⟩ := Prod.mk.inj (Except.ok.inj h)
    exact ⟨⟨trivial, rfl⟩, rfl⟩
  | .property span negated query, _, h => by
    obtain ⟨s, hs, h⟩ := bind_eq_ok_iff.1 h
    obtain ⟨rfl, rfl⟩ := Prod.mk.inj (Except.ok.inj h)
    exact ⟨Form.ofSet_denotes (proper_of_propertySet hs) hs, rfl⟩
  | .shorthand span negated kind, _, h => by
    obtain ⟨s, hs, h⟩ := bind_eq_ok_iff.1 h
    obtain ⟨rfl, rfl⟩ := Prod.mk.inj (Except.ok.inj h)
    exact ⟨Form.ofSet_denotes (Flags.proper_of_close (kind.proper_set _) hs) hs, rfl⟩
  | .bracketed span negated set, _, h => by
    obtain ⟨t, ht, h⟩ := bind_eq_ok_iff.1 h
    obtain ⟨s, hs, h⟩ := bind_eq_ok_iff.1 h
    obtain ⟨rfl, rfl⟩ := Prod.mk.inj (Except.ok.inj h)
    have hproper := Flags.proper_of_close (f.proper_fold (set.proper_of_chars ht)) hs
    exact ⟨Form.ofSet_denotes hproper (bind_eq_ok_iff.2 ⟨t, ht, hs⟩), rfl⟩
  | .repetition _ min max greedy sub, hcount, h => by
    obtain ⟨⟨g, f₁⟩, hg, h⟩ := bind_eq_ok_iff.1 h
    obtain ⟨rfl, rfl⟩ := Prod.mk.inj (Except.ok.inj h)
    obtain ⟨hdenotes, rfl⟩ := sub.form_denotes hcount.2 hg
    refine ⟨⟨Form.proper_repeated hcount.1 hdenotes.proper _, ?_⟩, rfl⟩
    rw [Form.language_repeated hcount.1 hdenotes.proper, hdenotes.language_eq, Ast.language]
  | .group _ (.capture index) sub, hcount, h => by
    obtain ⟨⟨g, f₁⟩, hg, h⟩ := bind_eq_ok_iff.1 h
    obtain ⟨rfl, rfl⟩ := Prod.mk.inj (Except.ok.inj h)
    obtain ⟨hdenotes, -⟩ := sub.form_denotes hcount hg
    exact ⟨⟨hdenotes.proper, hdenotes.language_eq⟩, rfl⟩
  | .group _ (.plain items) sub, hcount, h => by
    obtain ⟨⟨g, f₁⟩, hg, h⟩ := bind_eq_ok_iff.1 h
    obtain ⟨rfl, rfl⟩ := Prod.mk.inj (Except.ok.inj h)
    obtain ⟨hdenotes, -⟩ := sub.form_denotes hcount hg
    exact ⟨⟨hdenotes.proper, hdenotes.language_eq⟩, rfl⟩
  | .alternation _ subs, hcount, h => by
    obtain ⟨⟨gs, f₁⟩, hg, h⟩ := bind_eq_ok_iff.1 h
    obtain ⟨rfl, rfl⟩ := Prod.mk.inj (Except.ok.inj h)
    obtain ⟨hproper, hlanguages, rfl⟩ := partForms_denote subs hcount hg
    refine ⟨⟨Form.proper_choice hproper, ?_⟩, rfl⟩
    rw [Form.language_choice hproper, hlanguages, Ast.language]
  | .concat _ subs, hcount, h => by
    obtain ⟨⟨gs, f₁⟩, hg, h⟩ := bind_eq_ok_iff.1 h
    obtain ⟨rfl, rfl⟩ := Prod.mk.inj (Except.ok.inj h)
    obtain ⟨hproper, hlanguages, rfl⟩ := partForms_denote subs hcount hg
    refine ⟨⟨Form.proper_sequence hproper, ?_⟩, rfl⟩
    rw [Form.language_sequence, hlanguages, Ast.language]

/-- The parts of a concatenation get their forms one after the other, and the flags that one of them
sets apply to those behind it. -/
theorem partForms_denote {f f' : Flags} {forms : List Form} :
    (subs : List Ast) → PartsCounted subs → partForms f subs = .ok (forms, f') →
    (∀ g ∈ forms, g.Proper) ∧ forms.map Form.language = partLanguages f subs ∧
      f' = partsAfter f subs
  | [], _, h => by
    obtain ⟨rfl, rfl⟩ := Prod.mk.inj (Except.ok.inj h)
    exact ⟨nofun, rfl, rfl⟩
  | a :: subs, hcount, h => by
    obtain ⟨⟨g, f₁⟩, hg, h⟩ := bind_eq_ok_iff.1 h
    obtain ⟨⟨gs, f₂⟩, hgs, h⟩ := bind_eq_ok_iff.1 h
    obtain ⟨rfl, rfl⟩ := Prod.mk.inj (Except.ok.inj h)
    obtain ⟨hdenotes, rfl⟩ := a.form_denotes hcount.1 hg
    obtain ⟨hproper, hlanguages, rfl⟩ := partForms_denote subs hcount.2 hgs
    refine ⟨List.forall_mem_cons.2 ⟨hdenotes.proper, hproper⟩, ?_, rfl⟩
    rw [List.map_cons, hdenotes.language_eq, hlanguages, partLanguages]

end

end Pattern

end Descent
