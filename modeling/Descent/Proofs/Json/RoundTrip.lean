import Descent.Json.Writer
import Descent.Proofs.Json.Outcome

/-!
# What is written is read

The writer and the reader of documents fit together: what has been written for a string, a truth
value, a list or an object is read as what it was written for. A reader and a text for a value fit
(`Reader.Fits`) if the reader reads the text as the value, whatever follows. For strings that is so
because each character is either written as it is or escaped in a way that the reader undoes
(`escape_cases`); for lists and objects it is so if it is so for their parts.
-/

namespace Descent.Json

/-! ## Escapes -/

/-- A character is escaped by a letter, or by its number, or it is written as it is. -/
theorem escape_cases (c : Char) :
    (∃ letter, escape c = ['\\', letter] ∧ Reader.letterChar? letter = some c) ∨
    (c < ' ' ∧ escape c =
      ['\\', 'u', '0', '0', Nat.digitChar (c.toNat / 16), Nat.digitChar (c.toNat % 16)]) ∨
    (escape c = [c] ∧ c ≠ '"' ∧ c ≠ '\\' ∧ ¬ c < ' ') := by
  unfold escape
  split
  iterate 7 exact .inl ⟨_, rfl, rfl⟩
  rename_i hquote hbackslash _ _ _ _ _
  split
  · rename_i h
    exact .inr (.inl ⟨h, rfl⟩)
  · rename_i h
    exact .inr (.inr ⟨rfl, hquote, hbackslash, h⟩)

namespace Reader

variable {α β : Type} {input rest rest' : List Char} {c : Char}

/-- What a letter behind a backslash stands for. -/
theorem reads_escapedChar_of_letter {letter : Char} (h : letterChar? letter = some c) :
    Reads escapedChar (letter :: input) c input := by
  have hletter : isEscapeLetter letter = true := by
    rw [isEscapeLetter, h, Option.isSome_some, Bool.or_true]
  refine (reads_required hletter).bind ?_
  rw [h]
  exact reads_pure c

/-- The digits that are written have the values that are read. -/
theorem hexValue?_digitChar : ∀ n < 16, hexValue? (Nat.digitChar n) = some n := by decide

/-- Hexadecimal digits are ASCII. -/
theorem utf8Size_of_hexValue? {n : Nat} (h : hexValue? c = some n) : c.utf8Size = 1 := by
  have hle : c ≤ 'f' := by
    unfold hexValue? at h
    split at h
    · rename_i hc
      exact Char.le_trans hc.2 (by decide)
    · split at h
      · rename_i hc
        exact hc.2
      · split at h
        · rename_i hc
          exact Char.le_trans hc.2 (by decide)
        · cases h
  exact Char.utf8Size_eq_one_iff.2 (UInt32.le_trans hle (by decide))

/-- A symbol of one byte is eaten as one byte. -/
theorem eatBytes_succ {n : Nat} {s : Text.Symbol} {symbols : List Text.Symbol} {p : Place}
    (h : s.size = 1) : eatBytes (n + 1) (s :: symbols) p = eatBytes n symbols (p.past s 1) := by
  rw [eatBytes, h, if_neg (by omega), Nat.add_sub_cancel]

/-- Four hexadecimal digits are read as the number that they stand for. -/
theorem reads_hexEscape {a b c d : Char} {k l m n : Nat} (ha : hexValue? a = some k)
    (hb : hexValue? b = some l) (hc : hexValue? c = some m) (hd : hexValue? d = some n) :
    Reads hexEscape (a :: b :: c :: d :: input) (((k * 16 + l) * 16 + m) * 16 + n) input := by
  intro i hi
  have hsize {c : Char} {n : Nat} (h : hexValue? c = some n) : (Text.Symbol.char c).size = 1 :=
    utf8Size_of_hexValue? h
  obtain ⟨p, heat⟩ : ∃ p, eatBytes 4 i.rest i.place = (true, input.map .char, p) := by
    simp only [hi, List.map_cons]
    rw [eatBytes_succ (hsize ha), eatBytes_succ (hsize hb), eatBytes_succ (hsize hc),
      eatBytes_succ (hsize hd), eatBytes]
    exact ⟨_, rfl⟩
  have hdigits : ((i.rest.take 4).map fun s => hexValue? s.look) =
      [some k, some l, some m, some n] := by
    simp only [hi, List.map_cons, List.take_succ_cons, List.take_zero, List.map_nil,
      Text.Symbol.look, ha, hb, hc, hd]
  refine ⟨{ i with rest := input.map .char, place := p, peeked := false }, ?_, rfl⟩
  have hget : (get : Reader Input).run i = (.ok i, i) := rfl
  rw [hexEscape, run_bind_of_ok hget]
  dsimp only
  rw [heat, hdigits]
  rfl

/-- What the number of a control stands for. -/
theorem reads_escapedChar_of_lt (h : c < ' ') :
    Reads escapedChar
      ('u' :: '0' :: '0' :: Nat.digitChar (c.toNat / 16) :: Nat.digitChar (c.toNat % 16) :: input)
      c input := by
  have hc : c.toNat < 32 := h
  have hdigit (n : Nat) (hn : n < 16) := hexValue?_digitChar n hn
  have hhex := @reads_hexEscape input _ _ _ _ _ _ _ _ (hdigit 0 (by omega)) (hdigit 0 (by omega))
    (hdigit (c.toNat / 16) (by omega)) (hdigit (c.toNat % 16) (by omega))
  have hn : ((0 * 16 + 0) * 16 + c.toNat / 16) * 16 + c.toNat % 16 = c.toNat := by omega
  rw [hn] at hhex
  have htrailing : isTrailing c.toNat = false := by
    simp [isTrailing]; omega
  have hleading : isLeading c.toNat = false := by
    simp [isLeading]; omega
  refine (reads_required (by decide)).bind (hhex.bind ?_)
  simp only [htrailing, hleading, Bool.false_eq_true, if_false, Char.ofNat_toNat]
  exact reads_pure c

/-! ## Strings -/

/-- To go on with what is left is to go on with what the reader stands in front of. -/
theorem yields_get_bind {f : Input → Reader β} {o : Option β}
    (h : ∀ i : Input, i.rest = input.map .char → Yields (f i) input o rest) :
    Yields ((get : Reader Input) >>= f) input o rest := by
  cases o with
  | none => exact fun i hi => h i hi i hi
  | some b => exact fun i hi => h i hi i hi

section StringChars

variable {fuel : Nat} {read : List Char} {stray : Option Place}
  {o : Option (List Char × Option Place)}

/-- At its closing quote a string ends with what has been read of it. -/
theorem reads_stringChars_quote :
    Reads (stringChars (fuel + 1) read stray) ('"' :: rest) (read.reverse, stray) rest := by
  refine yields_get_bind (o := some _) fun i hi => ?_
  rw [hi]
  exact reads_eat.bind (reads_pure _)

/-- Behind a backslash a character is spelled in another way, and then the string goes on. -/
theorem yields_stringChars_backslash (hc : Reads escapedChar input c rest)
    (h : Yields (stringChars fuel (c :: read) stray) rest o rest') :
    Yields (stringChars (fuel + 1) read stray) ('\\' :: input) o rest' := by
  refine yields_get_bind fun i hi => ?_
  rw [hi]
  exact reads_eat.yields (hc.yields h)

/-- Any other character, but for control characters, stands for itself. -/
theorem yields_stringChars_plain (hquote : c ≠ '"') (hbackslash : c ≠ '\\') (hc : ¬ c < ' ')
    (h : Yields (stringChars fuel (c :: read) stray) input o rest) :
    Yields (stringChars (fuel + 1) read stray) (c :: input) o rest := by
  refine yields_get_bind fun i hi => ?_
  rw [hi]
  refine reads_eat.yields ?_
  split
  · rename_i heq
    exact absurd (Text.Symbol.char.inj heq) hquote
  · rename_i heq
    exact absurd (Text.Symbol.char.inj heq) hbackslash
  · rename_i heq
    obtain rfl := Text.Symbol.char.inj heq
    rw [if_neg hc]
    exact h
  · rename_i heq
    cases heq

end StringChars

theorem reverse_cons_append (c : Char) (read cs : List Char) :
    (c :: read).reverse ++ cs = read.reverse ++ c :: cs := by
  rw [List.reverse_cons, List.append_assoc, List.singleton_append]

/-- The characters of a string that has been written are read back, up to the closing quote. -/
theorem reads_stringChars (cs : List Char) {fuel : Nat} {read : List Char}
    (hfuel : cs.length < fuel) :
    Reads (stringChars fuel read none) (cs.flatMap escape ++ '"' :: rest)
      (read.reverse ++ cs, none) rest := by
  induction cs generalizing fuel read with
  | nil =>
    obtain ⟨n, rfl⟩ := Nat.exists_eq_add_one.2 hfuel
    rw [List.append_nil]
    exact reads_stringChars_quote
  | cons c cs ih =>
    rw [List.length_cons] at hfuel
    obtain ⟨n, rfl⟩ := Nat.exists_eq_add_one.2 (show 0 < fuel by omega)
    have hrest : Yields (stringChars n (c :: read) none) (cs.flatMap escape ++ '"' :: rest)
        (some (read.reverse ++ c :: cs, none)) rest := by
      rw [← reverse_cons_append]
      exact ih (by omega)
    rw [List.flatMap_cons, List.append_assoc]
    rcases escape_cases c with ⟨letter, hc, hletter⟩ | ⟨hlt, hc⟩ | ⟨hc, hquote, hbackslash, hlt⟩
    · rw [hc]
      exact yields_stringChars_backslash (reads_escapedChar_of_letter hletter) hrest
    · rw [hc]
      exact yields_stringChars_backslash (reads_escapedChar_of_lt hlt) hrest
    · rw [hc]
      exact yields_stringChars_plain hquote hbackslash hlt hrest

/-- Each character takes at least one to be spelled. -/
theorem length_le_length_flatMap_escape (cs : List Char) :
    cs.length ≤ (cs.flatMap escape).length := by
  induction cs with
  | nil => exact Nat.le_refl 0
  | cons c cs ih =>
    have hc : 1 ≤ (escape c).length := by
      rcases escape_cases c with ⟨letter, hc, -⟩ | ⟨-, hc⟩ | ⟨hc, -⟩ <;> rw [hc] <;> simp
    rw [List.flatMap_cons, List.length_append, List.length_cons]
    omega

/-- **A string that has been written is read back**, whatever its characters are. -/
theorem reads_string (s : String) :
    Reads string (s.toList.flatMap escape ++ '"' :: rest) s rest := by
  have hlength := length_le_length_flatMap_escape s.toList
  refine reads_budget.bind ((reads_stringChars s.toList ?_).bind ?_)
  · rw [List.length_append]
    omega
  · dsimp only
    rw [List.reverse_nil, List.nil_append, String.ofList_toList]
    exact reads_pure s

/-! ## Values -/

/-- The reader reads the text as the value, whatever follows; and the text begins neither with white
space nor as a list ends. -/
structure Fits (value : Reader α) (text : String) (a : α) : Prop where
  reads (rest : List Char) : Reads value (text.toList ++ rest) a rest
  head : ∃ c cs, text.toList = c :: cs ∧ isSpace c = false ∧ c ≠ ']'

/-- A string is written between quotes, with its characters spelled. -/
theorem toList_writeString (s : String) :
    (writeString s).toList = '"' :: (s.toList.flatMap escape ++ ['"']) := by
  rw [writeString, String.toList_ofList, List.cons_append]

theorem reads_valueStart (h : isSpace c = false) :
    Reads valueStart (c :: input) c (c :: input) :=
  (reads_token?_cons h).bind (reads_pure c)

theorem fits_bool (b : Bool) : Fits boolValue (writeBool b) b := by
  cases b with
  | true =>
    have htrue : (writeBool true).toList = 't' :: "rue".toList := by decide
    refine ⟨fun rest => ?_, 't', _, htrue, by decide, by decide⟩
    rw [htrue, List.cons_append]
    exact (reads_valueStart (by decide)).bind <| reads_eat.bind <| (reads_ident "rue").bind <|
      reads_pure true
  | false =>
    have hfalse : (writeBool false).toList = 'f' :: "alse".toList := by decide
    refine ⟨fun rest => ?_, 'f', _, hfalse, by decide, by decide⟩
    rw [hfalse, List.cons_append]
    exact (reads_valueStart (by decide)).bind <| reads_eat.bind <| (reads_ident "alse").bind <|
      reads_pure false

/-- **Strings are read as they are written.** -/
theorem fits_string (s : String) : Fits stringValue (writeString s) s := by
  have hs := toList_writeString s
  refine ⟨fun rest => ?_, '"', _, hs, by decide, by decide⟩
  rw [hs, List.cons_append, List.append_assoc]
  exact (reads_valueStart (by decide)).bind <| reads_eat.bind <| reads_string s

/-- A string is not taken for the value that stands for none. -/
theorem fits_optionalString (s : String) : Fits optionalStringValue (writeString s) (some s) := by
  have hs := toList_writeString s
  refine ⟨fun rest => ?_, (fits_string s).head⟩
  have hread := (fits_string s).reads rest
  rw [hs] at hread ⊢
  exact (reads_token?_cons (by decide)).bind <| hread.bind <| reads_pure (some s)

/-! ## Lists -/

/-- Between texts that stand behind each other there are commas: one in front of each but the
first. -/
theorem toList_intercalate_cons (text : String) (texts : List String) :
    (",".intercalate (text :: texts)).toList =
      text.toList ++ texts.flatMap fun text => ',' :: text.toList := by
  induction texts generalizing text with
  | nil => simp
  | cons next texts ih =>
    have hcomma : ",".toList = [','] := rfl
    rw [String.intercalate_cons_cons, String.toList_append, String.toList_append, ih, hcomma,
      List.flatMap_cons, List.append_assoc, List.singleton_append, List.cons_append]

/-- Each text takes at least the comma in front of it. -/
theorem length_le_length_flatMap_cons (texts : List String) :
    texts.length ≤ (texts.flatMap fun text => ',' :: text.toList).length := by
  induction texts with
  | nil => exact Nat.le_refl 0
  | cons text texts ih =>
    rw [List.flatMap_cons, List.length_append, List.length_cons, List.length_cons]
    omega

/-- At the closing bracket there is no other element. -/
theorem reads_hasElement_of_end (first : Bool) :
    Reads (hasElement first) (']' :: input) false (']' :: input) :=
  (reads_token?_cons (by decide)).bind (reads_pure false)

/-- Where a text that fits comes first, the list goes on with it. -/
theorem Fits.reads_hasElement_first {value : Reader α} {text : String} {a : α}
    (h : Fits value text a) :
    Reads (hasElement true) (text.toList ++ input) true (text.toList ++ input) := by
  obtain ⟨c, cs, htext, hspace, hend⟩ := h.head
  rw [htext]
  refine (reads_token?_cons hspace).bind ?_
  split
  · contradiction
  · rename_i heq
    exact absurd (Option.some.inj heq) hend
  · exact reads_pure true

/-- Where a text that fits comes behind a comma, the list goes on with it. -/
theorem Fits.reads_hasElement_comma {value : Reader α} {text : String} {a : α}
    (h : Fits value text a) :
    Reads (hasElement false) (',' :: (text.toList ++ input)) true (text.toList ++ input) := by
  obtain ⟨c, cs, htext, hspace, hend⟩ := h.head
  rw [htext]
  refine (reads_token?_cons (by decide)).bind (reads_eat.bind ((reads_token?_cons hspace).bind ?_))
  split
  · rename_i heq
    exact absurd (Option.some.inj heq) hend
  · exact reads_pure true
  · contradiction

/-- At the closing bracket no element is read. -/
theorem reads_element?_of_end (value : Reader α) (first : Bool) :
    Reads (element? first value) (']' :: input) none (']' :: input) :=
  (reads_hasElement_of_end first).bind (reads_pure none)

/-- If there is another element, then it is read as it is written. -/
theorem Fits.reads_element? {value : Reader α} {text : String} {a : α} {first : Bool}
    (h : Fits value text a) (hmore : Reads (hasElement first) input true (text.toList ++ rest)) :
    Reads (element? first value) input (some a) rest :=
  hmore.bind ((h.reads rest).bind (reads_pure (some a)))

/-- The elements behind the first one. -/
theorem reads_elements_comma {value : Reader α} {texts : List String} {as : List α}
    (h : List.Forall₂ (Fits value) texts as) {fuel : Nat} (hfuel : texts.length < fuel) :
    Reads (elements value fuel false)
      ((texts.flatMap fun text => ',' :: text.toList) ++ ']' :: rest) as (']' :: rest) := by
  induction h generalizing fuel with
  | nil =>
    obtain ⟨n, rfl⟩ := Nat.exists_eq_add_one.2 hfuel
    exact (reads_element?_of_end value false).bind (reads_pure [])
  | @cons text a texts as h _ ih =>
    rw [List.length_cons] at hfuel
    obtain ⟨n, rfl⟩ := Nat.exists_eq_add_one.2 (show 0 < fuel by omega)
    rw [List.flatMap_cons, List.cons_append, List.cons_append, List.append_assoc]
    exact (h.reads_element? h.reads_hasElement_comma).bind <|
      (ih (by omega)).bind (reads_pure (a :: as))

/-- The elements of a list are read as they are written, given fuel for each of them and for the
end. -/
theorem reads_elements {value : Reader α} {texts : List String} {as : List α}
    (h : List.Forall₂ (Fits value) texts as) {fuel : Nat} (hfuel : texts.length < fuel) :
    Reads (elements value fuel true) ((",".intercalate texts).toList ++ ']' :: rest) as
      (']' :: rest) := by
  obtain ⟨n, rfl⟩ := Nat.exists_eq_add_one.2 (show 0 < fuel by omega)
  cases h with
  | nil => exact (reads_element?_of_end value true).bind (reads_pure [])
  | @cons text a texts as h htexts =>
    rw [List.length_cons] at hfuel
    rw [toList_intercalate_cons, List.append_assoc]
    exact (h.reads_element? h.reads_hasElement_first).bind <|
      (reads_elements_comma htexts (by omega)).bind (reads_pure (a :: as))

/-- A list ends with its closing bracket. -/
theorem reads_listEnd : Reads listEnd (']' :: rest) () rest :=
  (reads_token?_cons (by decide)).bind reads_eat

/-- The texts of a list take at least the commas between them, so the length of the whole is fuel
enough. -/
theorem length_le_length_intercalate (texts : List String) :
    texts.length ≤ (",".intercalate texts).toList.length + 1 := by
  cases texts with
  | nil => exact Nat.zero_le _
  | cons text texts =>
    have := length_le_length_flatMap_cons texts
    rw [toList_intercalate_cons, List.length_append, List.length_cons]
    omega

/-- **A list that has been written is read back**, if its elements are. -/
theorem fits_list {value : Reader α} {texts : List String} {as : List α}
    (h : List.Forall₂ (Fits value) texts as) : Fits (listValue value) (writeList texts) as := by
  have htext : (writeList texts).toList = '[' :: ((",".intercalate texts).toList ++ [']']) := by
    rw [writeList, String.toList_append, String.toList_append]
    rfl
  refine ⟨fun rest => ?_, '[', _, htext, by decide, by decide⟩
  rw [htext, List.cons_append, List.append_assoc]
  refine (reads_valueStart (by decide)).bind ?_
  refine (reads_eat.bind (Reads.enclosed (reads_budget.bind ?_) reads_listEnd)).placed
  refine reads_elements h ?_
  have := length_le_length_intercalate texts
  rw [List.length_append]
  omega

/-! ## Objects -/

/-- The text of a member. -/
def memberText (m : String × String) : String := writeString m.1 ++ ":" ++ m.2

/-- Members are read, one after the other, into what has been read. -/
inductive MembersFit {σ : Type} (member : String → σ → Reader σ) :
    List (String × String) → σ → σ → Prop where
  /-- there are no members -/
  | nil (s : σ) : MembersFit member [] s s
  /-- one more member is read first, from behind its key -/
  | cons {key text : String} {ms : List (String × String)} {s s₁ s' : σ}
      (h : ∀ rest, Reads (member key s) (':' :: (text.toList ++ rest)) s₁ rest)
      (h' : MembersFit member ms s₁ s') : MembersFit member ((key, text) :: ms) s s'

section Members

variable {σ : Type} {member : String → σ → Reader σ} {ms : List (String × String)} {s s' : σ}

/-- At the closing brace there is no other member. -/
theorem reads_hasKey_of_end (first : Bool) :
    Reads (hasKey first) ('}' :: input) false ('}' :: input) :=
  (reads_token?_cons (by decide)).bind (reads_pure false)

/-- At a quote there is a key, if it is that of the first member. -/
theorem reads_hasKey_first : Reads (hasKey true) ('"' :: input) true ('"' :: input) :=
  (reads_token?_cons (by decide)).bind (reads_pure true)

/-- Behind a comma and a quote there is the key of another member. -/
theorem reads_hasKey_comma : Reads (hasKey false) (',' :: '"' :: input) true ('"' :: input) :=
  (reads_token?_cons (by decide)).bind <| reads_eat.bind <|
    (reads_token?_cons (by decide)).bind (reads_pure true)

theorem toList_memberText (key text : String) :
    (memberText (key, text)).toList =
      '"' :: (key.toList.flatMap escape ++ '"' :: ':' :: text.toList) := by
  have hcolon : ":".toList = [':'] := rfl
  rw [memberText, String.toList_append, String.toList_append, toList_writeString, hcolon]
  simp

/-- A member is read, and then those behind it. -/
theorem reads_members_cons {key text : String} {s₁ : σ} {fuel : Nat} {first : Bool}
    (hmore : Reads (hasKey first) input true ((memberText (key, text)).toList ++ rest))
    (h : ∀ rest, Reads (member key s) (':' :: (text.toList ++ rest)) s₁ rest)
    (h' : Reads (members member fuel false s₁) rest s' rest') :
    Reads (members member (fuel + 1) first s) input s' rest' := by
  rw [toList_memberText, List.cons_append, List.append_assoc, List.cons_append,
    List.cons_append] at hmore
  refine hmore.bind ?_
  rw [if_pos rfl]
  exact reads_eat.bind <| (reads_string key).bind <| (h rest).bind h'

/-- At the closing brace nothing is added to what the members have said. -/
theorem reads_members_of_end {fuel : Nat} {first : Bool} :
    Reads (members member (fuel + 1) first s) ('}' :: rest) s ('}' :: rest) :=
  (reads_hasKey_of_end first).bind (reads_pure s)

/-- The members behind the first one. -/
theorem reads_members_comma (h : MembersFit member ms s s') {fuel : Nat}
    (hfuel : ms.length < fuel) :
    Reads (members member fuel false s)
      (((ms.map memberText).flatMap fun text => ',' :: text.toList) ++ '}' :: rest) s'
      ('}' :: rest) := by
  induction h generalizing fuel with
  | nil s =>
    obtain ⟨n, rfl⟩ := Nat.exists_eq_add_one.2 hfuel
    exact reads_members_of_end
  | @cons key text ms s s₁ s' h _ ih =>
    rw [List.length_cons] at hfuel
    obtain ⟨n, rfl⟩ := Nat.exists_eq_add_one.2 (show 0 < fuel by omega)
    rw [List.map_cons, List.flatMap_cons, List.cons_append, List.cons_append, List.append_assoc]
    refine reads_members_cons ?_ h (ih (by omega))
    rw [toList_memberText]
    exact reads_hasKey_comma

/-- The members of an object are read as they are written, given fuel for each of them and for the
end. -/
theorem reads_members (h : MembersFit member ms s s') {fuel : Nat} (hfuel : ms.length < fuel) :
    Reads (members member fuel true s)
      ((",".intercalate (ms.map memberText)).toList ++ '}' :: rest) s' ('}' :: rest) := by
  obtain ⟨n, rfl⟩ := Nat.exists_eq_add_one.2 (show 0 < fuel by omega)
  cases h with
  | nil s => exact reads_members_of_end
  | @cons key text ms _ s₁ _ h hms =>
    rw [List.length_cons] at hfuel
    rw [List.map_cons, toList_intercalate_cons, List.append_assoc]
    refine reads_members_cons ?_ h (reads_members_comma hms (by omega))
    rw [toList_memberText]
    exact reads_hasKey_first

/-- An object ends with its closing brace. -/
theorem reads_objectEnd : Reads objectEnd ('}' :: rest) () rest :=
  (reads_token?_cons (by decide)).bind reads_eat

/-- A member that has not been read before is read. -/
theorem Fits.reads_field {value : Reader α} {text : String} {a : α} (h : Fits value text a)
    (name : String) (rest : List Char) :
    Reads (field name none value) (':' :: (text.toList ++ rest)) (some a) rest :=
  ((reads_token?_cons (by decide)).bind reads_eat).bind <| (h.reads rest).bind <|
    reads_pure (some a)

/-- **An object that has been written is read back**, if its members are. -/
theorem fits_record {wanted : String} {fields : Reader α} {finish : σ → Reader α} {a : α}
    (h : MembersFit member ms s s') (hfinish : ∀ input, Reads (finish s') input a input) :
    Fits (recordValue wanted fields (do
        let s' ← members member (← budget) true s
        finish s'))
      (writeObject ms) a := by
  have htext : (writeObject ms).toList =
      '{' :: ((",".intercalate (ms.map memberText)).toList ++ ['}']) := by
    rw [writeObject, String.toList_append, String.toList_append]
    rfl
  refine ⟨fun rest => ?_, '{', _, htext, by decide, by decide⟩
  rw [htext, List.cons_append, List.append_assoc]
  refine (reads_valueStart (by decide)).bind ?_
  refine (reads_eat.bind (Reads.enclosed (reads_budget.bind ?_) reads_objectEnd)).placed
  refine (reads_members h ?_).bind (hfinish _)
  have := length_le_length_intercalate (ms.map memberText)
  rw [List.length_map] at this
  rw [List.length_append]
  omega

end Members

/-- **A document that has been written is read back**, if its value is. -/
theorem Fits.document_eq {value : Reader α} {text : String} {a : α} (h : Fits value text a)
    (medium : Medium) : document value medium (text.toList.map .char) = .ok a := by
  have hend : Reads documentEnd [] () [] := reads_token?.bind (reads_pure ())
  have hvalue := h.reads []
  rw [List.append_nil] at hvalue
  have hwhole : Reads (do let a ← value; documentEnd; return a) text.toList a [] :=
    hvalue.bind (hend.bind (reads_pure a))
  obtain ⟨i, hrun, -⟩ := hwhole ⟨medium, text.toList.map .char, .first, false⟩ rfl
  exact congrArg Prod.fst hrun

end Reader

end Descent.Json
