import Descent.Proofs.Json.Ignoring

/-!
# Strings and how they are spelled

A string is read as the characters that it spells, however they are escaped, and a string that
spells no text is refused (`Reader.yields_string`). The reader finds out as it goes: where it
stands in front of the rest of a string, either there is a text that the rest spells, or the reader
fails on the way (`Reader.spelled_or_fails`).
-/

namespace Descent.Json.Reader

variable {input input' rest rest' : List Char} {c : Char} {m n : Nat}

/-! ## Escapes by number -/

theorem fails_required {missing wrong : Cause} {test : Char → Bool} (h : test c = false) :
    Fails (required missing wrong test) (c :: input) := by
  refine reads_peek?.fails ?_
  dsimp only [List.head?_cons]
  rw [if_neg (by rw [h]; decide)]
  exact (refuses_failNext wrong).fails _

theorem reads_pairLetter (c : Char) : Reads (pairLetter c) (c :: input) () input := by
  have hc : Reads (required .endInString .unexpectedEndOfEscape (· == c)) (c :: input) c input :=
    reads_required (beq_self_eq_true c)
  exact hc.discard

theorem fails_pairLetter {d : Char} (h : c ≠ d) : Fails (pairLetter d) (c :: input) := by
  have hfails : Fails (required .endInString .unexpectedEndOfEscape (· == d)) (c :: input) :=
    fails_required (beq_false_of_ne h)
  have hdiscard : pairLetter d =
      required .endInString .unexpectedEndOfEscape (· == d) >>= fun _ => pure () := by
    rw [bind_pure_comp]
    rfl
  rw [hdiscard]
  exact hfails.bind

theorem reads_numberedChar_of_single (hn : Hex input n rest) (hleading : isLeading n = false)
    (htrailing : isTrailing n = false) : Reads numberedChar input (Char.ofNat n) rest := by
  refine (reads_hexEscape_of_hex hn).bind ?_
  rw [htrailing, hleading]
  exact reads_pure _

theorem not_isTrailing_of_isLeading (h : isLeading n = true) : isTrailing n = false := by
  simp [isLeading, isTrailing] at h ⊢
  omega

theorem reads_numberedChar_of_pair (hm : Hex input m ('\\' :: 'u' :: input'))
    (hleading : isLeading m = true) (hn : Hex input' n rest) (htrailing : isTrailing n = true) :
    Reads numberedChar input (Char.ofNat ((m - 0xD800) * 0x400 + (n - 0xDC00) + 0x10000)) rest := by
  refine (reads_hexEscape_of_hex hm).bind ?_
  rw [not_isTrailing_of_isLeading hleading, hleading]
  refine (reads_pairLetter '\\').bind <| (reads_pairLetter 'u').bind <|
    (reads_hexEscape_of_hex hn).bind ?_
  rw [htrailing]
  exact reads_pure _

/-- The second half of a pair is not a character. -/
theorem fails_numberedChar_of_isTrailing (hn : Hex input n rest) (htrailing : isTrailing n = true) :
    Fails numberedChar input := by
  refine (reads_hexEscape_of_hex hn).fails ?_
  rw [htrailing]
  exact (refuses_failHere _).bind.fails _

/-- The first half of a pair is not a character without the second half. -/
theorem fails_numberedChar_of_isLeading (hm : Hex input m input') (hleading : isLeading m = true)
    (h : StringTail input' rest)
    (hother : ∀ i n i', input' = '\\' :: 'u' :: i → Hex i n i' → isTrailing n = false) :
    Fails numberedChar input := by
  refine (reads_hexEscape_of_hex hm).fails ?_
  rw [not_isTrailing_of_isLeading hleading, hleading]
  cases h with
  | close => exact (fails_pairLetter (by decide)).bind
  | plain _ hbackslash => exact (fails_pairLetter hbackslash).bind
  | letter hl =>
    refine (reads_pairLetter '\\').fails (fails_pairLetter ?_).bind
    rintro rfl
    cases hl
  | code hn =>
    refine (reads_pairLetter '\\').fails <| (reads_pairLetter 'u').fails <|
      (reads_hexEscape_of_hex hn).fails ?_
    rw [hother _ _ _ rfl hn]
    exact (refuses_failHere _).bind.fails _

theorem yields_escapedChar_of_code {o : Option Char} (h : Yields numberedChar input o rest) :
    Yields escapedChar ('u' :: input) o rest :=
  (reads_required (by decide)).yields h

/-! ## Strings -/

section StringChars

variable {fuel : Nat} {read cs : List Char}

/-- One more character is read, and what follows it. -/
theorem reads_stringChars_cons (hc : Reads escapedChar input c input')
    (h : Reads (stringChars fuel (c :: read) none) input' ((c :: read).reverse ++ cs, none) rest) :
    Reads (stringChars (fuel + 1) read none) ('\\' :: input) (read.reverse ++ c :: cs, none)
      rest := by
  rw [reverse_cons_append] at h
  exact yields_stringChars_backslash (o := some _) hc h

/-- What is spelled is read, up to the closing quote. -/
theorem reads_stringChars_of_spelled (h : Spelled input cs rest) (hfuel : input.length < fuel) :
    Reads (stringChars fuel read none) input (read.reverse ++ cs, none) rest := by
  induction h generalizing fuel read with
  | close rest =>
    obtain ⟨n, rfl⟩ := Nat.exists_eq_add_one.2 (Nat.zero_lt_of_lt hfuel)
    rw [List.append_nil]
    exact reads_stringChars_quote
  | @plain c input cs rest hquote hbackslash hcontrol _ ih =>
    obtain ⟨n, rfl⟩ := Nat.exists_eq_add_one.2 (Nat.zero_lt_of_lt hfuel)
    have hrest : Reads (stringChars n (c :: read) none) input ((c :: read).reverse ++ cs, none)
        rest := ih (Nat.lt_of_succ_lt_succ hfuel)
    rw [reverse_cons_append] at hrest
    exact yields_stringChars_plain (o := some _) hquote hbackslash hcontrol hrest
  | letter hl _ ih =>
    obtain ⟨n, rfl⟩ := Nat.exists_eq_add_one.2 (Nat.zero_lt_of_lt hfuel)
    simp only [List.length_cons] at hfuel
    exact reads_stringChars_cons (reads_escapedChar_of_letter hl) (ih (by omega))
  | code hn hleading htrailing _ ih =>
    obtain ⟨n, rfl⟩ := Nat.exists_eq_add_one.2 (Nat.zero_lt_of_lt hfuel)
    have hlength := hn.length_lt
    simp only [List.length_cons] at hfuel
    have hchar := reads_numberedChar_of_single hn hleading htrailing
    exact reads_stringChars_cons (yields_escapedChar_of_code (o := some _) hchar) (ih (by omega))
  | pair hm hleading hn htrailing _ ih =>
    obtain ⟨n, rfl⟩ := Nat.exists_eq_add_one.2 (Nat.zero_lt_of_lt hfuel)
    have hlength := hm.length_lt
    have hlength' := hn.length_lt
    simp only [List.length_cons] at hfuel hlength
    have hchar := reads_numberedChar_of_pair hm hleading hn htrailing
    exact reads_stringChars_cons (yields_escapedChar_of_code (o := some _) hchar) (ih (by omega))

theorem fails_stringChars_backslash (hc : Fails escapedChar input) :
    Fails (stringChars (fuel + 1) read none) ('\\' :: input) := by
  refine (yields_get_bind fun i hi => ?_ : Yields _ _ none [])
  rw [hi]
  exact reads_eat.fails hc.bind

/-- Behind an escape that gives a character, all depends on what follows. -/
theorem spelled_or_fails_of_char (hc : Reads escapedChar input c input')
    (hspelled : ∀ cs, Spelled input' cs rest → Spelled ('\\' :: input) (c :: cs) rest)
    (h : (∃ cs, Spelled input' cs rest) ∨ Fails (stringChars fuel (c :: read) none) input') :
    (∃ cs, Spelled ('\\' :: input) cs rest) ∨
      Fails (stringChars (fuel + 1) read none) ('\\' :: input) := by
  obtain ⟨cs, hcs⟩ | hfails := h
  · exact .inl ⟨c :: cs, hspelled cs hcs⟩
  · have hmore : Yields _ _ none rest := yields_stringChars_backslash hc hfails
    exact .inr hmore

/-- The rest of a string spells a text, or the reader fails. -/
theorem spelled_or_fails (h : StringTail input rest) (hfuel : input.length < fuel) :
    (∃ cs, Spelled input cs rest) ∨ Fails (stringChars fuel read none) input := by
  -- behind the first half of a pair comes what follows the second one, so the induction is on the
  -- steps and not on the string
  induction fuel generalizing input read with
  | zero => exact absurd hfuel (Nat.not_lt_zero _)
  | succ fuel ih =>
    cases h with
    | close => exact .inl ⟨[], .close rest⟩
    | @plain c input _ hquote hbackslash hcontrol h =>
      obtain ⟨cs, hcs⟩ | hfails := @ih input (c :: read) h (Nat.lt_of_succ_lt_succ hfuel)
      · exact .inl ⟨c :: cs, .plain hquote hbackslash hcontrol hcs⟩
      · have hmore : Yields _ _ none rest :=
          yields_stringChars_plain hquote hbackslash hcontrol hfails
        exact .inr hmore
    | letter hl h =>
      simp only [List.length_cons] at hfuel
      exact spelled_or_fails_of_char (reads_escapedChar_of_letter hl) (fun _ => .letter hl)
        (ih h (by omega))
    | @code m input input' _ hm h =>
      have hlength := hm.length_lt
      simp only [List.length_cons] at hfuel
      have hfails (hnumber : Fails numberedChar input) :
          Fails (stringChars (fuel + 1) read none) ('\\' :: 'u' :: input) :=
        fails_stringChars_backslash
          (yields_escapedChar_of_code hnumber : Yields _ _ none rest)
      have hgives {c : Char} {rest : List Char} (hnumber : Reads numberedChar input c rest) :
          Reads escapedChar ('u' :: input) c rest :=
        yields_escapedChar_of_code (o := some c) hnumber
      cases htrailing : isTrailing m with
      | true => exact .inr (hfails (fails_numberedChar_of_isTrailing hm htrailing))
      | false =>
        cases hleading : isLeading m with
        | false =>
          exact spelled_or_fails_of_char
            (hgives (reads_numberedChar_of_single hm hleading htrailing))
            (fun _ => .code hm hleading htrailing) (ih h (by omega))
        | true =>
          by_cases hpair : ∃ i n i', input' = '\\' :: 'u' :: i ∧ Hex i n i' ∧ isTrailing n = true
          · obtain ⟨i, n, i', rfl, hn, htrailing'⟩ := hpair
            have hlength' := hn.length_lt
            simp only [List.length_cons] at hlength
            exact spelled_or_fails_of_char
              (hgives (reads_numberedChar_of_pair hm hleading hn htrailing'))
              (fun _ => .pair hm hleading hn htrailing') (ih (h.of_code hn) (by omega))
          · refine .inr (hfails (fails_numberedChar_of_isLeading hm hleading h ?_))
            intro i n i' hi hn
            rw [← Bool.not_eq_true]
            exact fun htrailing' => hpair ⟨i, n, i', hi, hn, htrailing'⟩

end StringChars

/-- **A string is read as the text that it spells**, and it is refused if it spells none. -/
theorem yields_string {content : Option String} (h : Content input content rest) :
    Yields string input content rest := by
  cases h with
  | text h =>
    have hchars : Reads (stringChars (2 * input.length + 2) [] none) input _ rest :=
      reads_stringChars_of_spelled h (by omega)
    exact reads_budget.bind (hchars.bind (reads_pure _))
  | other h hother =>
    obtain ⟨cs, hcs⟩ | hfails := @spelled_or_fails _ _ (2 * input.length + 2) [] h (by omega)
    · exact absurd hcs (hother cs)
    · exact reads_budget.fails hfails.bind

end Descent.Json.Reader
