import Descent.Proofs.Json.Grammar
import Descent.Proofs.Json.RoundTrip

/-!
# Whatever is well formed is moved past

A value that nobody asked for is moved past, however it is written and whatever it is made of
(`Reader.reads_ignored`). That is done without recursion: the reader keeps the frames that the value
stands in, and goes on until there are none left. So to have moved past a phrase means to stand
where the frames around it go on, and `Skips` says that a phrase can be moved past if what follows
it can.

The reader is given steps, of which it needs two for each character that is left.
-/

namespace Descent.Json

variable {input mid rest : List Char} {c : Char}

namespace Reader

/-- Behind white space there is the next character. -/
theorem reads_token?_same (h : SameToken input (c :: rest)) (hc : isSpace c = false) :
    Reads token? input (some c) (c :: rest) := by
  have htoken := @reads_token? input
  rwa [h.dropWhile_eq hc] at htoken

/-! ## Numbers -/

/-- Digits are moved past up to where there are no more. -/
theorem reads_skipDigits (h : Digits input rest)
    (hrest : ∀ c, rest.head? = some c → isDigit c = false) :
    Reads skipDigits input (input.takeWhile isDigit).length rest := by
  have hskip := @reads_skipWhile input isDigit
  rwa [h.dropWhile_eq, dropWhile_eq_self hrest] at hskip

/-- Move past an exponent, if there is one. -/
def skipExponent? : Reader Unit := do
  match ← peek? with
  | some 'e' | some 'E' => skipExponent
  | _ => pure ()

/-- Move past what stands behind the part of a number before the point. -/
def skipFraction : Reader Unit := do
  match ← peek? with
  | some '.' =>
    eat
    if (← skipDigits) = 0 then failNext .invalidNumber
    skipExponent?
  | some 'e' | some 'E' => skipExponent
  | _ => pure ()

/-- What stands behind the part before the point is moved past in one turn, whichever way that part
is written. -/
theorem skipNumber_eq : skipNumber = (do
    if (← required .invalidNumber .invalidNumber isDigit) = '0' then
      if (← peek?).any isDigit then failNext .invalidNumber
    else discard skipDigits
    skipFraction) := rfl

/-- Behind its letter an exponent is moved past, up to where the value ends. -/
theorem reads_skipExponent {e : Char} {input' : List Char} (hsign : Sign input (c :: input'))
    (hc : isDigit c = true) (h : Digits input' rest) (hends : Ends rest) :
    Reads skipExponent (e :: input) () rest := by
  have hdigits : Reads (do
      discard (required .invalidNumber .invalidNumber isDigit)
      discard skipDigits) (c :: input') () rest :=
    (reads_required hc).discard.bind (reads_skipDigits h fun _ => hends.not_digit).discard
  refine reads_eat.bind (reads_peek?.bind ?_)
  cases hsign with
  | plus => exact reads_eat.bind hdigits
  | minus => exact reads_eat.bind hdigits
  | without =>
    rw [List.head?_cons]
    split
    · rename_i heq
      obtain rfl := Option.some.inj heq
      exact absurd hc (by decide)
    · rename_i heq
      obtain rfl := Option.some.inj heq
      exact absurd hc (by decide)
    · exact hdigits

/-- An exponent is moved past if there is one. -/
theorem reads_skipExponent? (h : Exponent input rest) (hends : Ends rest) :
    Reads skipExponent? input () rest := by
  refine reads_peek?.bind ?_
  cases h with
  | without =>
    split
    · rename_i heq
      exact absurd heq hends.ne_exponent.1
    · rename_i heq
      exact absurd heq hends.ne_exponent.2
    · exact reads_pure ()
  | digits he hsign hc hdigits =>
    obtain rfl | rfl := he <;> exact reads_skipExponent hsign hc hdigits hends

/-- The digits behind the point are moved past, and an exponent behind them. -/
theorem reads_skipFraction (h : Places input mid) (h' : Exponent mid rest) (hends : Ends rest) :
    Reads skipFraction input () rest := by
  refine reads_peek?.bind ?_
  cases h with
  | without =>
    cases h' with
    | without =>
      split
      · rename_i heq
        exact absurd heq hends.ne_point
      · rename_i heq
        exact absurd heq hends.ne_exponent.1
      · rename_i heq
        exact absurd heq hends.ne_exponent.2
      · exact reads_pure ()
    | digits he hsign hc hdigits =>
      obtain rfl | rfl := he <;> exact reads_skipExponent hsign hc hdigits hends
  | digits hc h =>
    refine reads_eat.bind ((reads_skipDigits (.cons hc h) fun _ => h'.not_digit hends).bind ?_)
    rw [List.takeWhile_cons_of_pos hc, List.length_cons, if_neg (Nat.succ_ne_zero _)]
    exact reads_skipExponent? h' hends

/-- A number is moved past up to where the value ends. -/
theorem reads_skipNumber (h : Unsigned input rest) (hends : Ends rest) :
    Reads skipNumber input () rest := by
  obtain ⟨i₁, i₂, hwhole, hplaces, hexponent⟩ := h
  have hfraction := reads_skipFraction hplaces hexponent hends
  have hdigit (c : Char) : i₁.head? = some c → isDigit c = false :=
    hplaces.not_digit hexponent hends
  rw [skipNumber_eq]
  cases hwhole with
  | zero =>
    refine (reads_required (by decide)).bind ?_
    rw [if_pos rfl]
    refine reads_peek?.bind ?_
    rw [if_neg]
    · exact hfraction
    · rw [Option.any_eq_true]
      rintro ⟨c, hc, hc'⟩
      exact absurd hc' (by rw [hdigit c hc]; decide)
  | digits hc hzero hdigits =>
    refine (reads_required hc).bind ?_
    rw [if_neg hzero]
    exact (reads_skipDigits hdigits hdigit).discard.bind hfraction

/-! ## Strings -/

/-- Four hexadecimal digits are read with their value. -/
theorem reads_hexEscape_of_hex {n : Nat} (h : Hex input n rest) : Reads hexEscape input n rest := by
  cases h with
  | digits ha hb hc hd => exact reads_hexEscape ha hb hc hd

/-- The rest of a string is moved past, whatever it stands for. -/
theorem reads_skipString (h : StringTail input rest) {fuel : Nat} (hfuel : input.length < fuel) :
    Reads (skipString fuel) input () rest := by
  induction h generalizing fuel with
  | close rest =>
    obtain ⟨n, rfl⟩ := Nat.exists_eq_add_one.2 (Nat.zero_lt_of_lt hfuel)
    exact reads_peek?.bind reads_eat
  | @plain c input rest hquote hbackslash hcontrol _ ih =>
    obtain ⟨n, rfl⟩ := Nat.exists_eq_add_one.2 (Nat.zero_lt_of_lt hfuel)
    refine reads_peek?.bind ?_
    rw [List.head?_cons]
    split
    · contradiction
    · rename_i heq
      exact absurd (Option.some.inj heq) hquote
    · rename_i heq
      exact absurd (Option.some.inj heq) hbackslash
    · rename_i heq
      obtain rfl := Option.some.inj heq
      rw [if_neg hcontrol]
      exact reads_eat.bind (ih (Nat.lt_of_succ_lt_succ hfuel))
  | @letter l c input rest hl _ ih =>
    obtain ⟨n, rfl⟩ := Nat.exists_eq_add_one.2 (Nat.zero_lt_of_lt hfuel)
    have hletter : isEscapeLetter l = true := by
      rw [isEscapeLetter, hl, Option.isSome_some, Bool.or_true]
    have hu : l ≠ 'u' := by
      rintro rfl
      cases hl
    refine reads_peek?.bind (reads_eat.bind ((reads_required hletter).bind ?_))
    rw [if_neg hu]
    rw [List.length_cons, List.length_cons] at hfuel
    exact ih (by omega)
  | code hn _ ih =>
    obtain ⟨n, rfl⟩ := Nat.exists_eq_add_one.2 (Nat.zero_lt_of_lt hfuel)
    refine reads_peek?.bind (reads_eat.bind ((reads_required (by decide)).bind ?_))
    rw [if_pos rfl]
    have hlength := hn.length_lt
    rw [List.length_cons, List.length_cons] at hfuel
    exact (reads_hexEscape_of_hex hn).discard.bind (ih (by omega))

/-! ## One value behind another -/

/-- Go on behind a value in its frames. -/
def past (fuel : Nat) : List Frame → Reader Unit
  | [] => return ()
  | frame :: frames => skipEnd fuel true frame frames

/-- Move past a key and its colon, and go on. -/
def pastKey (r : Reader Unit) : Reader Unit := do
  match ← token? with
  | some '"' => eat
  | some _ => failNext .keyMustBeString
  | none => failNext .endInObject
  skipString (← budget)
  match ← token? with
  | some ':' => eat
  | some _ => failNext .expectedColon
  | none => failNext .endInObject
  r

/-- With enough steps, the reader moves on from one text to the other. -/
def Moves (r : Nat → Reader Unit) (input rest : List Char) : Prop :=
  ∀ n, 2 * input.length < n → Reads (r n) input () rest

/-- With enough steps, the reader moves on from the first token of one text to the other. -/
def MovesFromToken (r : Nat → Reader Unit) (input rest : List Char) : Prop :=
  ∀ i, SameToken i input → Moves r i rest

/-- What it means that a phrase can be moved past: if the reader moves on behind it, then also in
front of it. -/
def Skips : Phrase → List Char → List Char → Prop
  | .value _, input, mid => Ends mid → ∀ frames rest, Moves (past · frames) mid rest →
    MovesFromToken (skipValue · frames) input rest
  | .element _, input, mid => Ends mid → ∀ frame frames rest,
    MovesFromToken (skipEnd · true frame frames) mid rest →
    MovesFromToken (skipValue · (frame :: frames)) input rest
  | .elements _, input, mid => ∀ frames rest, Moves (past · frames) mid rest →
    ∀ n, 2 * input.length + 1 < n → Reads (skipEnd n false .list frames) input () rest
  | .moreElements _, input, mid => ∀ frames rest, Moves (past · frames) mid rest →
    MovesFromToken (skipEnd · true .list frames) input rest
  | .member _, input, mid => Ends mid → ∀ frames rest,
    MovesFromToken (skipEnd · true .object frames) mid rest →
    MovesFromToken (fun n => pastKey (skipValue n (.object :: frames))) input rest
  | .members _, input, mid => ∀ frames rest, Moves (past · frames) mid rest →
    ∀ n, 2 * input.length + 1 < n → Reads (skipEnd n false .object frames) input () rest
  | .moreMembers _, input, mid => ∀ frames rest, Moves (past · frames) mid rest →
    MovesFromToken (skipEnd · true .object frames) input rest

section Machine

variable {i : List Char} {n : Nat} {comma : Bool} {frame : Frame} {frames : List Frame}

/-- The values that are words are moved past letter by letter. -/
theorem reads_skipValue_ident {letters : String}
    (hc : (c = 'n' ∧ letters = "ull") ∨ (c = 't' ∧ letters = "rue") ∨ (c = 'f' ∧ letters = "alse"))
    (hi : SameToken i (c :: (letters.toList ++ mid))) (h : Reads (past n frames) mid () rest) :
    Reads (skipValue (n + 1) frames) i () rest := by
  rw [skipValue.eq_def]
  obtain ⟨rfl, rfl⟩ | ⟨rfl, rfl⟩ | ⟨rfl, rfl⟩ := hc <;>
    exact (reads_token?_same hi (by decide)).bind (reads_eat.bind ((reads_ident _).bind h))

/-- A number is told by its first digit, and moved past. -/
theorem reads_skipValue_number (hi : SameToken i input) (hnumber : Unsigned input mid)
    (hends : Ends mid) (h : Reads (past n frames) mid () rest) :
    Reads (skipValue (n + 1) frames) i () rest := by
  obtain ⟨c, cs, rfl, hc⟩ := hnumber.starts
  have hdigit : ∀ d ∈ ['[', '{', 'n', 't', 'f', '-'], isDigit d = false :=
    forall_mem_of_all (by decide)
  have hmark (d : Char) (hd : d ∈ ['[', '{', 'n', 't', 'f', '-']) : c ≠ d := by
    rintro rfl
    exact absurd hc (by rw [hdigit c hd]; decide)
  have hspace := (not_endMark_of_mem_startMarks c (mem_startMarks_of_isDigit hc)).1
  rw [skipValue.eq_def]
  refine (reads_token?_same hi hspace).bind ?_
  dsimp only
  rw [if_neg (hmark '[' (by decide)), if_neg (hmark '{' (by decide)),
    if_neg (hmark 'n' (by decide)), if_neg (hmark 't' (by decide)), if_neg (hmark 'f' (by decide)),
    if_neg (hmark '-' (by decide)), if_pos hc]
  exact (reads_skipNumber hnumber hends).bind h

/-- A number may have a sign in front of it. -/
theorem reads_skipValue_negative (hi : SameToken i ('-' :: input)) (hnumber : Unsigned input mid)
    (hends : Ends mid) (h : Reads (past n frames) mid () rest) :
    Reads (skipValue (n + 1) frames) i () rest := by
  rw [skipValue.eq_def]
  exact (reads_token?_same hi (by decide)).bind <| reads_eat.bind <|
    (reads_skipNumber hnumber hends).bind h

/-- A string is told by its quote, and moved past. -/
theorem reads_skipValue_string (hi : SameToken i ('"' :: input)) (hstring : StringTail input mid)
    (h : Reads (past n frames) mid () rest) : Reads (skipValue (n + 1) frames) i () rest := by
  rw [skipValue.eq_def]
  exact (reads_token?_same hi (by decide)).bind <| reads_eat.bind <|
    reads_budget.bind <| (reads_skipString hstring (by omega)).bind h

/-- A list is told by its bracket, and makes a frame around what stands in it. -/
theorem reads_skipValue_list (hi : SameToken i ('[' :: input))
    (h : Reads (skipEnd n false .list frames) input () rest) :
    Reads (skipValue (n + 1) frames) i () rest := by
  rw [skipValue.eq_def]
  exact (reads_token?_same hi (by decide)).bind (reads_eat.bind h)

/-- An object is told by its brace, and makes a frame around what stands in it. -/
theorem reads_skipValue_object (hi : SameToken i ('{' :: input))
    (h : Reads (skipEnd n false .object frames) input () rest) :
    Reads (skipValue (n + 1) frames) i () rest := by
  rw [skipValue.eq_def]
  exact (reads_token?_same hi (by decide)).bind (reads_eat.bind h)

/-- A closing mark ends the frame that it belongs to. -/
theorem reads_skipEnd_close (hc : (c = ']' ∧ frame = .list) ∨ (c = '}' ∧ frame = .object))
    (hi : SameToken i (c :: mid)) (h : Reads (past n frames) mid () rest) :
    Reads (skipEnd (n + 1) comma frame frames) i () rest := by
  rw [skipEnd.eq_def]
  obtain ⟨rfl, rfl⟩ | ⟨rfl, rfl⟩ := hc <;>
    exact (reads_token?_same hi (by decide)).bind (reads_eat.bind h)

/-- Behind a comma there is another element. -/
theorem reads_skipEnd_comma_list (hi : SameToken i (',' :: input))
    (h : Reads (skipValue n (.list :: frames)) input () rest) :
    Reads (skipEnd (n + 1) true .list frames) i () rest := by
  rw [skipEnd.eq_def]
  exact (reads_token?_same hi (by decide)).bind (reads_eat.bind h)

/-- The first element of a list has no comma in front of it. -/
theorem reads_skipEnd_first_list (hi : SameToken i (c :: input)) (hc : c ∈ startMarks)
    (h : Reads (skipValue n (.list :: frames)) (c :: input) () rest) :
    Reads (skipEnd (n + 1) false .list frames) i () rest := by
  obtain ⟨hspace, hclose, -, -⟩ := not_endMark_of_mem_startMarks c hc
  rw [skipEnd.eq_def]
  refine (reads_token?_same hi hspace).bind ?_
  dsimp only
  rw [if_neg (by simp [hclose])]
  exact h

/-- Behind a comma there is another member. -/
theorem reads_skipEnd_comma_object (hi : SameToken i (',' :: input))
    (h : Reads (pastKey (skipValue n (.object :: frames))) input () rest) :
    Reads (skipEnd (n + 1) true .object frames) i () rest := by
  rw [skipEnd.eq_def]
  exact (reads_token?_same hi (by decide)).bind (reads_eat.bind h)

/-- The first member of an object has no comma in front of it. -/
theorem reads_skipEnd_first_object (hi : SameToken i ('"' :: input))
    (h : Reads (pastKey (skipValue n (.object :: frames))) ('"' :: input) () rest) :
    Reads (skipEnd (n + 1) false .object frames) i () rest := by
  rw [skipEnd.eq_def]
  exact (reads_token?_same hi (by decide)).bind h

/-- A key is moved past with the colon behind it. -/
theorem reads_pastKey {r : Reader Unit} {i₁ i₂ i₃ : List Char} (hi : SameToken i ('"' :: i₁))
    (hkey : StringTail i₁ i₂) (hcolon : SameToken i₂ (':' :: i₃)) (h : Reads r i₃ () rest) :
    Reads (pastKey r) i () rest :=
  (reads_token?_same hi (by decide)).bind <| reads_eat.bind <| reads_budget.bind <|
    (reads_skipString hkey (by omega)).bind <| (reads_token?_same hcolon (by decide)).bind <|
      reads_eat.bind h

end Machine

/-- A reader that has moved on from a token could as well have begun at the token. -/
theorem MovesFromToken.of_sameToken {r : Nat → Reader Unit} (h : MovesFromToken r mid rest)
    (hi : SameToken input mid) : MovesFromToken r input rest :=
  fun i hi' => h i (hi'.trans hi)

theorem MovesFromToken.moves {r : Nat → Reader Unit} (h : MovesFromToken r input rest) :
    Moves r input rest :=
  h input rfl

/-- A reader that takes a step at a token does so from in front of it. -/
theorem movesFromToken_of_step {r : Nat → Reader Unit} (hc : isSpace c = false)
    (h : ∀ i n, SameToken i (c :: input) → 2 * input.length + 1 < n → Reads (r (n + 1)) i () rest) :
    MovesFromToken r (c :: input) rest := by
  intro i hi n hn
  have hlength := hi.length_lt hc
  obtain ⟨n, rfl⟩ := Nat.exists_eq_add_one.2 (Nat.zero_lt_of_lt hn)
  exact h i n hi (by omega)

/-- Where the innermost frame closes, the reader goes on in the frames around it. -/
theorem movesFromToken_close {comma : Bool} {frame : Frame} {frames : List Frame}
    (hc : (c = ']' ∧ frame = .list) ∨ (c = '}' ∧ frame = .object))
    (hmid : Moves (past · frames) mid rest) :
    MovesFromToken (skipEnd · comma frame frames) (c :: mid) rest := by
  have hspace : isSpace c = false := by
    obtain ⟨rfl, -⟩ | ⟨rfl, -⟩ := hc <;> decide
  exact movesFromToken_of_step hspace fun i n hi hn =>
    reads_skipEnd_close hc hi (hmid n (by omega))

end Reader

open Reader

/-- **Whatever is written can be moved past.** -/
theorem Written.skips {p : Phrase} (h : Written p input mid) : Skips p input mid := by
  induction h with
  | null mid | true mid | false mid =>
    intro _ frames rest hmid
    refine movesFromToken_of_step (by decide) fun i n hi hn => ?_
    rw [List.length_append] at hn
    exact reads_skipValue_ident (by simp) hi (hmid n (by omega))
  | number h =>
    intro hends frames rest hmid i hi n hn
    obtain ⟨c, cs, rfl, hc⟩ := h.starts
    have hspace := (not_endMark_of_mem_startMarks c (mem_startMarks_of_isDigit hc)).1
    have hlength := hi.length_lt hspace
    have hnumber := h.length_lt
    rw [List.length_cons] at hnumber
    obtain ⟨n, rfl⟩ := Nat.exists_eq_add_one.2 (Nat.zero_lt_of_lt hn)
    exact reads_skipValue_number hi h hends (hmid n (by omega))
  | negative h =>
    intro hends frames rest hmid
    have hlength := h.length_lt
    exact movesFromToken_of_step (by decide) fun i n hi hn =>
      reads_skipValue_negative hi h hends (hmid n (by omega))
  | string h =>
    intro _ frames rest hmid
    have hlength := h.stringTail.length_lt
    exact movesFromToken_of_step (by decide) fun i n hi hn =>
      reads_skipValue_string hi h.stringTail (hmid n (by omega))
  | list _ ih =>
    intro _ frames rest hmid
    exact movesFromToken_of_step (by decide) fun i n hi hn =>
      reads_skipValue_list hi (ih frames rest hmid n hn)
  | object _ ih =>
    intro _ frames rest hmid
    exact movesFromToken_of_step (by decide) fun i n hi hn =>
      reads_skipValue_object hi (ih frames rest hmid n hn)
  | element hbefore _ hafter ih =>
    intro hends frame frames rest hmid
    exact (ih (hafter.ends hends) (frame :: frames) rest
      (hmid.of_sameToken hafter.sameToken).moves).of_sameToken hbefore.sameToken
  | noElements hblank =>
    intro frames rest hmid n hn
    exact movesFromToken_close (.inl ⟨rfl, rfl⟩) hmid _ hblank.sameToken n (by omega)
  | elements h hmore ih₁ ih₂ =>
    intro frames rest hmid n hn
    obtain ⟨c, cs, hblank, hc⟩ := h.starts_of_element
    have hlength := hblank.length_le
    obtain ⟨n, rfl⟩ := Nat.exists_eq_add_one.2 (Nat.zero_lt_of_lt hn)
    have hskip := ih₁ hmore.ends_of_moreElements .list frames rest (ih₂ frames rest hmid)
    exact reads_skipEnd_first_list hblank.sameToken hc
      (hskip (c :: cs) hblank.sameToken.symm n (by omega))
  | endOfList mid =>
    intro frames rest hmid
    exact movesFromToken_close (.inl ⟨rfl, rfl⟩) hmid
  | moreElements h hmore ih₁ ih₂ =>
    intro frames rest hmid
    have hskip := ih₁ hmore.ends_of_moreElements .list frames rest (ih₂ frames rest hmid)
    exact movesFromToken_of_step (by decide) fun i n hi hn =>
      reads_skipEnd_comma_list hi (hskip.moves n (by omega))
  | member hbefore hkey hcolon _ ih =>
    intro hends frames rest hmid i hi n hn
    have hquote : SameToken i _ := hi.trans hbefore.sameToken
    have hquote' := hquote.length_lt (by decide)
    have hkey' := hkey.stringTail.length_lt
    have hcolon' := hcolon.length_le
    rw [List.length_cons] at hcolon'
    exact reads_pastKey hquote hkey.stringTail hcolon.sameToken
      ((ih hends .object frames rest hmid).moves n (by omega))
  | noMembers hblank =>
    intro frames rest hmid n hn
    exact movesFromToken_close (.inr ⟨rfl, rfl⟩) hmid _ hblank.sameToken n (by omega)
  | members h hmore ih₁ ih₂ =>
    intro frames rest hmid n hn
    obtain ⟨cs, hblank⟩ := h.starts_of_member
    have hlength := hblank.length_le
    obtain ⟨n, rfl⟩ := Nat.exists_eq_add_one.2 (Nat.zero_lt_of_lt hn)
    have hskip := ih₁ hmore.ends_of_moreMembers frames rest (ih₂ frames rest hmid)
    exact reads_skipEnd_first_object hblank.sameToken
      (hskip ('"' :: cs) hblank.sameToken.symm n (by omega))
  | endOfObject mid =>
    intro frames rest hmid
    exact movesFromToken_close (.inr ⟨rfl, rfl⟩) hmid
  | moreMembers h hmore ih₁ ih₂ =>
    intro frames rest hmid
    have hskip := ih₁ hmore.ends_of_moreMembers frames rest (ih₂ frames rest hmid)
    exact movesFromToken_of_step (by decide) fun i n hi hn =>
      reads_skipEnd_comma_object hi (hskip.moves n (by omega))

/-- **A value that nobody asked for is moved past**, however it is written. -/
theorem Reader.reads_ignored {v : Value} {i : List Char} (h : Written (.value v) input rest)
    (hends : Ends rest) (hi : SameToken i input) : Reads ignored i () rest :=
  reads_budget.bind (h.skips hends [] rest (fun _ _ => reads_pure ()) i hi _ (by omega))

end Descent.Json
