import Descent.Json.Reader

/-!
# The grammar of documents

What a document says is a value: a truth value, a number, a string, a list of values, or an object
whose members are values with keys. `Written` says that a text begins with a value that is written
out, in any of the ways in which that can be done, and what is left of the text behind it: white
space may stand around the values and the keys, and the characters of a string may be escaped in
several ways. The members of an object keep the order in which they are written.

What number a document says is of no interest here, and neither is a string that is no text because
an escape stands for half of a pair.

A value is told by its first character (`startMarks`), and what can stand behind it belongs to no
value (`endMarks`). That is why a reader never has to look further than one character ahead.
-/

namespace Descent.Json

open Reader (isSpace isDigit hexValue? isLeading isTrailing letterChar?)

/-- What a document says. -/
inductive Value where
  /-- the value that stands for none -/
  | null
  /-- a truth value -/
  | boolean (b : Bool)
  /-- a number -/
  | number
  /-- a string, whose content need not be a text -/
  | string (content : Option String)
  /-- a list of values -/
  | list (values : List Value)
  /-- an object with its members, each a key and a value -/
  | object (members : List (Option String × Value))

/-- A member of an object: a key, which need not be a text, and a value. -/
abbrev Member := Option String × Value

/-! ## White space and numbers -/

/-- The first text is the second one behind white space. -/
inductive Blank : List Char → List Char → Prop where
  | nil (cs : List Char) : Blank cs cs
  | cons {c : Char} {cs rest : List Char} (hc : isSpace c = true) (h : Blank cs rest) :
      Blank (c :: cs) rest

/-- The first text is the second one behind decimal digits. -/
inductive Digits : List Char → List Char → Prop where
  | nil (cs : List Char) : Digits cs cs
  | cons {c : Char} {cs rest : List Char} (hc : isDigit c = true) (h : Digits cs rest) :
      Digits (c :: cs) rest

/-- The part of a number before the point: a zero alone, or digits that do not begin with one. -/
inductive Whole : List Char → List Char → Prop where
  | zero (rest : List Char) : Whole ('0' :: rest) rest
  | digits {c : Char} {cs rest : List Char} (hc : isDigit c = true) (hzero : c ≠ '0')
      (h : Digits cs rest) : Whole (c :: cs) rest

/-- The point of a number and the digits behind it, if there is one. -/
inductive Places : List Char → List Char → Prop where
  | without (rest : List Char) : Places rest rest
  | digits {c : Char} {cs rest : List Char} (hc : isDigit c = true) (h : Digits cs rest) :
      Places ('.' :: c :: cs) rest

/-- The sign of an exponent, if it has one. -/
inductive Sign : List Char → List Char → Prop where
  | without (rest : List Char) : Sign rest rest
  | plus (rest : List Char) : Sign ('+' :: rest) rest
  | minus (rest : List Char) : Sign ('-' :: rest) rest

/-- The exponent of a number, if it has one. -/
inductive Exponent : List Char → List Char → Prop where
  | without (rest : List Char) : Exponent rest rest
  | digits {e c : Char} {cs cs' rest : List Char} (he : e = 'e' ∨ e = 'E')
      (hsign : Sign cs (c :: cs')) (hc : isDigit c = true) (h : Digits cs' rest) :
      Exponent (e :: cs) rest

/-- A number that is not negative. -/
def Unsigned (input rest : List Char) : Prop :=
  ∃ i₁ i₂, Whole input i₁ ∧ Places i₁ i₂ ∧ Exponent i₂ rest

/-! ## Strings -/

/-- Four hexadecimal digits and their value. -/
inductive Hex : List Char → Nat → List Char → Prop where
  | digits {a b c d : Char} {k l m n : Nat} (ha : hexValue? a = some k) (hb : hexValue? b = some l)
      (hc : hexValue? c = some m) (hd : hexValue? d = some n) (rest : List Char) :
      Hex (a :: b :: c :: d :: rest) (((k * 16 + l) * 16 + m) * 16 + n) rest

/-- The rest of a string, up to its closing quote. -/
inductive StringTail : List Char → List Char → Prop where
  | close (rest : List Char) : StringTail ('"' :: rest) rest
  | plain {c : Char} {input rest : List Char} (hquote : c ≠ '"') (hbackslash : c ≠ '\\')
      (hcontrol : ¬ c < ' ') (h : StringTail input rest) : StringTail (c :: input) rest
  | letter {l c : Char} {input rest : List Char} (hl : letterChar? l = some c)
      (h : StringTail input rest) : StringTail ('\\' :: l :: input) rest
  | code {n : Nat} {input input' rest : List Char} (hn : Hex input n input')
      (h : StringTail input' rest) : StringTail ('\\' :: 'u' :: input) rest

/-- The rest of a string, up to its closing quote, and the characters that it stands for. A
character may be escaped by its number in UTF-16, which is one half of a pair and then the other
for some. -/
inductive Spelled : List Char → List Char → List Char → Prop where
  | close (rest : List Char) : Spelled ('"' :: rest) [] rest
  | plain {c : Char} {input cs rest : List Char} (hquote : c ≠ '"') (hbackslash : c ≠ '\\')
      (hcontrol : ¬ c < ' ') (h : Spelled input cs rest) : Spelled (c :: input) (c :: cs) rest
  | letter {l c : Char} {input cs rest : List Char} (hl : letterChar? l = some c)
      (h : Spelled input cs rest) : Spelled ('\\' :: l :: input) (c :: cs) rest
  | code {n : Nat} {input input' cs rest : List Char} (hn : Hex input n input')
      (hleading : isLeading n = false) (htrailing : isTrailing n = false)
      (h : Spelled input' cs rest) : Spelled ('\\' :: 'u' :: input) (Char.ofNat n :: cs) rest
  | pair {m n : Nat} {input input' input'' cs rest : List Char}
      (hm : Hex input m ('\\' :: 'u' :: input')) (hleading : isLeading m = true)
      (hn : Hex input' n input'') (htrailing : isTrailing n = true) (h : Spelled input'' cs rest) :
      Spelled ('\\' :: 'u' :: input)
        (Char.ofNat ((m - 0xD800) * 0x400 + (n - 0xDC00) + 0x10000) :: cs) rest

/-- The rest of a string, up to its closing quote, and its content, if that is a text. -/
inductive Content : List Char → Option String → List Char → Prop where
  | text {input cs rest : List Char} (h : Spelled input cs rest) :
      Content input (some (String.ofList cs)) rest
  | other {input rest : List Char} (h : StringTail input rest)
      (hother : ∀ cs, ¬ Spelled input cs rest) : Content input none rest

/-! ## Values -/

/-- What stands in a document. -/
inductive Phrase where
  /-- a value -/
  | value (v : Value)
  /-- a value with white space around it -/
  | element (v : Value)
  /-- the elements of a list, up to its closing bracket -/
  | elements (vs : List Value)
  /-- the elements of a list behind another one, up to its closing bracket -/
  | moreElements (vs : List Value)
  /-- a member of an object, with white space around it -/
  | member (m : Member)
  /-- the members of an object, up to its closing brace -/
  | members (ms : List Member)
  /-- the members of an object behind another one, up to its closing brace -/
  | moreMembers (ms : List Member)

/-- The text begins with the phrase, and the other one is what is left of it. -/
inductive Written : Phrase → List Char → List Char → Prop where
  | null (rest : List Char) : Written (.value .null) ('n' :: ("ull".toList ++ rest)) rest
  | true (rest : List Char) : Written (.value (.boolean true)) ('t' :: ("rue".toList ++ rest)) rest
  | false (rest : List Char) :
      Written (.value (.boolean false)) ('f' :: ("alse".toList ++ rest)) rest
  | number {input rest : List Char} (h : Unsigned input rest) : Written (.value .number) input rest
  | negative {input rest : List Char} (h : Unsigned input rest) :
      Written (.value .number) ('-' :: input) rest
  | string {input rest : List Char} {content : Option String} (h : Content input content rest) :
      Written (.value (.string content)) ('"' :: input) rest
  | list {vs : List Value} {input rest : List Char} (h : Written (.elements vs) input rest) :
      Written (.value (.list vs)) ('[' :: input) rest
  | object {ms : List Member} {input rest : List Char} (h : Written (.members ms) input rest) :
      Written (.value (.object ms)) ('{' :: input) rest
  | element {v : Value} {input i₁ i₂ rest : List Char} (hbefore : Blank input i₁)
      (h : Written (.value v) i₁ i₂) (hafter : Blank i₂ rest) : Written (.element v) input rest
  | noElements {input rest : List Char} (hblank : Blank input (']' :: rest)) :
      Written (.elements []) input rest
  | elements {v : Value} {vs : List Value} {input i₁ rest : List Char}
      (h : Written (.element v) input i₁) (hmore : Written (.moreElements vs) i₁ rest) :
      Written (.elements (v :: vs)) input rest
  | endOfList (rest : List Char) : Written (.moreElements []) (']' :: rest) rest
  | moreElements {v : Value} {vs : List Value} {input i₁ rest : List Char}
      (h : Written (.element v) input i₁) (hmore : Written (.moreElements vs) i₁ rest) :
      Written (.moreElements (v :: vs)) (',' :: input) rest
  | member {key : Option String} {v : Value} {input i₁ i₂ i₃ rest : List Char}
      (hbefore : Blank input ('"' :: i₁)) (hkey : Content i₁ key i₂)
      (hcolon : Blank i₂ (':' :: i₃)) (h : Written (.element v) i₃ rest) :
      Written (.member (key, v)) input rest
  | noMembers {input rest : List Char} (hblank : Blank input ('}' :: rest)) :
      Written (.members []) input rest
  | members {m : Member} {ms : List Member} {input i₁ rest : List Char}
      (h : Written (.member m) input i₁) (hmore : Written (.moreMembers ms) i₁ rest) :
      Written (.members (m :: ms)) input rest
  | endOfObject (rest : List Char) : Written (.moreMembers []) ('}' :: rest) rest
  | moreMembers {m : Member} {ms : List Member} {input i₁ rest : List Char}
      (h : Written (.member m) input i₁) (hmore : Written (.moreMembers ms) i₁ rest) :
      Written (.moreMembers (m :: ms)) (',' :: input) rest

/-! ## White space and digits -/

variable {input mid rest : List Char}

/-- Do both texts have the same next token? -/
def SameToken (input input' : List Char) : Prop :=
  input.dropWhile isSpace = input'.dropWhile isSpace

/-- A token that does not begin with white space is what comes behind the white space. -/
theorem SameToken.dropWhile_eq {c : Char} (h : SameToken input (c :: rest))
    (hc : isSpace c = false) : input.dropWhile isSpace = c :: rest := by
  rw [h, List.dropWhile_cons_of_neg (by rw [hc]; decide)]

/-- Behind the first character of the next token there is less left. -/
theorem SameToken.length_lt {c : Char} (h : SameToken input (c :: rest)) (hc : isSpace c = false) :
    rest.length < input.length := by
  have hlength := (List.dropWhile_sublist isSpace (l := input)).length_le
  rwa [h.dropWhile_eq hc] at hlength

/-- White space in front of a text has no say in what its next token is. -/
theorem Blank.sameToken (h : Blank input rest) : SameToken input rest := by
  induction h with
  | nil cs => rfl
  | cons hc _ ih => exact (List.dropWhile_cons_of_pos hc).trans ih

theorem Blank.length_le (h : Blank input rest) : rest.length ≤ input.length := by
  induction h with
  | nil cs => exact Nat.le_refl _
  | cons hc _ ih => exact Nat.le_succ_of_le ih

/-- However many of the digits are written down, all of them are passed over. -/
theorem Digits.dropWhile_eq (h : Digits input rest) :
    input.dropWhile isDigit = rest.dropWhile isDigit := by
  induction h with
  | nil cs => rfl
  | cons hc _ ih => rw [List.dropWhile_cons_of_pos hc, ih]

theorem Digits.length_le (h : Digits input rest) : rest.length ≤ input.length := by
  induction h with
  | nil cs => exact Nat.le_refl _
  | cons hc _ ih => exact Nat.le_succ_of_le ih

/-- If the first character fails the test, then none is dropped. -/
theorem dropWhile_eq_self {test : Char → Bool}
    (h : ∀ c, input.head? = some c → test c = false) : input.dropWhile test = input := by
  cases input with
  | nil => rfl
  | cons c input => rw [List.dropWhile_cons_of_neg (by rw [h c rfl]; decide)]

/-! ## What follows a value -/

/-- The characters that can stand behind a value: white space, a comma, and the closing marks. -/
def endMarks : List Char := [' ', '\n', '\t', '\r', ',', ']', '}']

/-- A value can end here. -/
def Ends (rest : List Char) : Prop := ∀ c, rest.head? = some c → c ∈ endMarks

/-- A value can end in front of white space, and what comes behind that does not matter. -/
theorem Blank.ends (h : Blank input rest) (hrest : Ends rest) : Ends input := by
  cases h with
  | nil cs => exact hrest
  | @cons c cs rest hc _ =>
    intro d hd
    obtain rfl := Option.some.inj hd
    simp only [isSpace, Bool.or_eq_true, beq_iff_eq] at hc
    obtain ((rfl | rfl) | rfl) | rfl := hc <;> decide

/-- What is tested of all characters of a list holds of each of them. -/
theorem forall_mem_of_all {P : Char → Prop} [DecidablePred P] {cs : List Char}
    (h : cs.all (fun c => P c) = true) : ∀ c ∈ cs, P c :=
  fun c hc => of_decide_eq_true (List.all_eq_true.1 h c hc)

/-- A number does not go on with what can stand behind it. -/
theorem not_more_of_mem_endMarks :
    ∀ c ∈ endMarks, isDigit c = false ∧ c ≠ '.' ∧ c ≠ 'e' ∧ c ≠ 'E' :=
  forall_mem_of_all (by decide)

/-- Where a value can end, there is no digit. -/
theorem Ends.not_digit (h : Ends rest) {c : Char} (hc : rest.head? = some c) :
    isDigit c = false :=
  (not_more_of_mem_endMarks c (h c hc)).1

/-- Where a value can end, there is no point. -/
theorem Ends.ne_point (h : Ends rest) : rest.head? ≠ some '.' :=
  fun hc => (not_more_of_mem_endMarks _ (h _ hc)).2.1 rfl

/-- Where a value can end, there is no letter that an exponent begins with. -/
theorem Ends.ne_exponent (h : Ends rest) : rest.head? ≠ some 'e' ∧ rest.head? ≠ some 'E' :=
  ⟨fun hc => (not_more_of_mem_endMarks _ (h _ hc)).2.2.1 rfl,
    fun hc => (not_more_of_mem_endMarks _ (h _ hc)).2.2.2 rfl⟩

/-- What follows the digits behind the point does not begin with a digit. -/
theorem Exponent.not_digit (h : Exponent input rest) (hends : Ends rest) {c : Char}
    (hc : input.head? = some c) : isDigit c = false := by
  cases h with
  | without => exact hends.not_digit hc
  | digits he => obtain rfl | rfl := he <;> obtain rfl := Option.some.inj hc <;> decide

/-- What follows the part of a number before the point does not begin with a digit. -/
theorem Places.not_digit (h : Places input mid) (h' : Exponent mid rest) (hends : Ends rest)
    {c : Char} (hc : input.head? = some c) : isDigit c = false := by
  cases h with
  | without => exact h'.not_digit hends hc
  | digits =>
    obtain rfl := Option.some.inj hc
    decide

/-- Behind an element comes a comma or the closing bracket. -/
theorem Written.ends_of_moreElements {vs : List Value} (h : Written (.moreElements vs) input rest) :
    Ends input := by
  cases h <;> rintro c ⟨⟩ <;> decide

/-- Behind a member comes a comma or the closing brace. -/
theorem Written.ends_of_moreMembers {ms : List Member} (h : Written (.moreMembers ms) input rest) :
    Ends input := by
  cases h <;> rintro c ⟨⟩ <;> decide

/-! ## How a value begins -/

/-- The decimal digits. -/
def digitMarks : List Char := ['0', '1', '2', '3', '4', '5', '6', '7', '8', '9']

/-- The characters with which the value can begin. -/
def Value.marks : Value → List Char
  | null => ['n']
  | boolean true => ['t']
  | boolean false => ['f']
  | number => '-' :: digitMarks
  | string _ => ['"']
  | list _ => ['[']
  | object _ => ['{']

/-- The characters with which a value can begin. -/
def startMarks : List Char := ['n', 't', 'f', '"', '[', '{', '-'] ++ digitMarks

/-- No value begins like what can stand behind a value. -/
theorem not_endMark_of_mem_startMarks :
    ∀ c ∈ startMarks, isSpace c = false ∧ c ≠ ']' ∧ c ≠ '}' ∧ c ≠ ',' :=
  forall_mem_of_all (by decide)

/-- All decimal digits are listed. -/
theorem mem_digitMarks_of_isDigit {c : Char} (h : isDigit c = true) : c ∈ digitMarks := by
  have hdigits : ∀ n < 10, Char.ofNat (48 + n) ∈ digitMarks := by decide
  rw [isDigit, Bool.and_eq_true, decide_eq_true_iff, decide_eq_true_iff] at h
  have hlow : 48 ≤ c.toNat := h.1
  have hhigh : c.toNat ≤ 57 := h.2
  have hc := hdigits (c.toNat - 48) (by omega)
  rwa [Nat.add_sub_cancel' hlow, Char.ofNat_toNat] at hc

theorem mem_startMarks_of_isDigit {c : Char} (h : isDigit c = true) : c ∈ startMarks :=
  List.mem_append_right _ (mem_digitMarks_of_isDigit h)

/-- However a value begins, it is one of the ways in which a value can. -/
theorem Value.mem_startMarks {v : Value} {c : Char} (h : c ∈ v.marks) : c ∈ startMarks := by
  have hsub : v.marks ⊆ startMarks := by
    cases v with
    | number => exact List.cons_subset.2 ⟨by simp [startMarks], List.subset_append_right _ _⟩
    | boolean b => cases b <;> simp [marks, startMarks]
    | _ => simp [marks, startMarks]
  exact hsub h

/-- A number that is not negative begins with a digit. -/
theorem Unsigned.starts (h : Unsigned input rest) :
    ∃ c cs, input = c :: cs ∧ isDigit c = true := by
  obtain ⟨i₁, i₂, hwhole, -⟩ := h
  cases hwhole with
  | zero => exact ⟨_, _, rfl, by decide⟩
  | digits hc => exact ⟨_, _, rfl, hc⟩

/-- A value that is written out begins with one of its marks. -/
theorem Written.starts {v : Value} (h : Written (.value v) input rest) :
    ∃ c cs, input = c :: cs ∧ c ∈ v.marks := by
  cases h with
  | number h =>
    obtain ⟨c, cs, rfl, hc⟩ := h.starts
    exact ⟨c, cs, rfl, List.mem_cons_of_mem _ (mem_digitMarks_of_isDigit hc)⟩
  | _ => exact ⟨_, _, rfl, List.mem_cons_self⟩

/-- Behind white space, an element begins like a value. -/
theorem Written.starts_of_element {v : Value} (h : Written (.element v) input rest) :
    ∃ c cs, Blank input (c :: cs) ∧ c ∈ startMarks := by
  cases h with
  | element hbefore h =>
    obtain ⟨c, cs, rfl, hc⟩ := h.starts
    exact ⟨c, cs, hbefore, Value.mem_startMarks hc⟩

/-- Behind white space, a member begins with the quote of its key. -/
theorem Written.starts_of_member {m : Member} (h : Written (.member m) input rest) :
    ∃ cs, Blank input ('"' :: cs) := by
  cases h with
  | member hbefore => exact ⟨_, hbefore⟩

/-! ## Lengths -/

/-- Something is read of four digits. -/
theorem Hex.length_lt {n : Nat} (h : Hex input n rest) : rest.length < input.length := by
  cases h
  simp only [List.length_cons]
  omega

theorem Sign.length_le (h : Sign input rest) : rest.length ≤ input.length := by
  cases h <;> simp

/-- Something is read of a number. -/
theorem Unsigned.length_lt (h : Unsigned input rest) : rest.length < input.length := by
  obtain ⟨i₁, i₂, hwhole, hplaces, hexponent⟩ := h
  have hwhole' : i₁.length < input.length := by
    cases hwhole with
    | zero => exact Nat.lt_succ_self _
    | digits _ _ h => exact Nat.lt_succ_of_le h.length_le
  have hplaces' : i₂.length ≤ i₁.length := by
    cases hplaces with
    | without => exact Nat.le_refl _
    | digits _ h => exact Nat.le_succ_of_le (Nat.le_succ_of_le h.length_le)
  have hexponent' : rest.length ≤ i₂.length := by
    cases hexponent with
    | without => exact Nat.le_refl _
    | digits _ hsign _ h =>
      have hlength := hsign.length_le
      have hdigits := h.length_le
      rw [List.length_cons] at hlength ⊢
      omega
  omega

/-- Something is read of the rest of a string, if only its closing quote. -/
theorem StringTail.length_lt (h : StringTail input rest) : rest.length < input.length := by
  induction h with
  | close => exact Nat.lt_succ_self _
  | plain _ _ _ _ ih => exact Nat.lt_succ_of_lt ih
  | letter _ _ ih => exact Nat.lt_succ_of_lt (Nat.lt_succ_of_lt ih)
  | code hn _ ih =>
    have hcode := hn.length_lt
    simp only [List.length_cons]
    omega

/-- Four digits end where they end, whatever their value is. -/
theorem Hex.rest_unique {m n : Nat} {rest' : List Char} (h : Hex input m rest)
    (h' : Hex input n rest') : rest = rest' := by
  cases h
  cases h'
  rfl

/-- Behind an escape by number the string goes on. -/
theorem StringTail.of_code {n : Nat} {input' : List Char}
    (h : StringTail ('\\' :: 'u' :: input) rest) (hn : Hex input n input') :
    StringTail input' rest := by
  cases h with
  | plain _ hbackslash => exact absurd rfl hbackslash
  | letter hl => cases hl
  | code hn' h => exact hn'.rest_unique hn ▸ h

/-- A text that is spelled is the rest of a string. -/
theorem Spelled.stringTail {cs : List Char} (h : Spelled input cs rest) :
    StringTail input rest := by
  induction h with
  | close rest => exact .close rest
  | plain hquote hbackslash hcontrol _ ih => exact .plain hquote hbackslash hcontrol ih
  | letter hl _ ih => exact .letter hl ih
  | code hn _ _ _ ih => exact .code hn ih
  | pair hm _ hn _ _ ih => exact .code hm (.code hn ih)

/-- Whatever a string stands for, it has a closing quote. -/
theorem Content.stringTail {content : Option String} (h : Content input content rest) :
    StringTail input rest := by
  cases h with
  | text h => exact h.stringTail
  | other h => exact h

/-- A text without quotes, backslashes and controls is spelled by itself. -/
theorem Content.of_plain {s : String} (cs : List Char) (hs : s.toList = cs)
    (h : cs.all (fun c => c ≠ '"' ∧ c ≠ '\\' ∧ ¬ c < ' ') = true) :
    Content (cs ++ '"' :: rest) (some s) rest := by
  have hspelled : Spelled (cs ++ '"' :: rest) cs rest := by
    clear hs
    induction cs with
    | nil => exact .close rest
    | cons c cs ih =>
      obtain ⟨hc, hcs⟩ := Bool.and_eq_true_iff.1 h
      obtain ⟨hquote, hbackslash, hcontrol⟩ := of_decide_eq_true hc
      exact .plain hquote hbackslash hcontrol (ih hcs)
  rw [← String.ofList_toList (s := s), hs]
  exact .text hspelled

/-- How many characters a phrase must have. -/
def Phrase.minLength : Phrase → Nat
  | value _ | element _ | member _ => 1
  | elements vs | moreElements vs => vs.length + 1
  | members ms | moreMembers ms => ms.length + 1

/-- Each phrase takes as many characters as it needs at least. -/
theorem Written.length_le {p : Phrase} (h : Written p input rest) :
    rest.length + p.minLength ≤ input.length := by
  induction h with
  | null | true | false => simp [Phrase.minLength]
  | number h => exact h.length_lt
  | negative h => exact Nat.lt_succ_of_lt h.length_lt
  | string h => exact Nat.lt_succ_of_lt h.stringTail.length_lt
  | endOfList | endOfObject => exact Nat.le_refl _
  | noElements hblank | noMembers hblank => exact hblank.length_le
  | element hbefore _ hafter ih =>
    have hbefore' := hbefore.length_le
    have hafter' := hafter.length_le
    simp only [Phrase.minLength] at ih ⊢
    omega
  | member hbefore hkey hcolon _ ih =>
    have hbefore' := hbefore.length_le
    have hkey' := hkey.stringTail.length_lt
    have hcolon' := hcolon.length_le
    simp only [Phrase.minLength, List.length_cons] at *
    omega
  | list _ ih | object _ ih | elements _ _ ih₁ ih₂ | moreElements _ _ ih₁ ih₂
  | members _ _ ih₁ ih₂ | moreMembers _ _ ih₁ ih₂ =>
    simp only [Phrase.minLength, List.length_cons] at *
    omega

end Descent.Json
