import Descent.Proofs.Json.Spelling
import Mathlib.Tactic.FinCases

/-!
# What documents mean to a reader

A reader that asks for a value of some kind gives it a meaning: `Value.text?` is what a value means
where a string is asked for, and so on, and a value of another type means nothing there. A reader
`Means` a meaning if in front of a value, however that is written, it yields what the value means
and stops behind it, and fails if the value means nothing.

The readers of truth values and strings mean what one expects, and so do those of lists and records
if the readers of their parts do (`means_listValue`, `means_recordValue`). Since a document is one
value, that says for all documents what is read, and which of them are refused
(`Means.document`).
-/

namespace Descent.Json

variable {α β σ : Type} {input mid rest i : List Char} {c : Char}

/-! ## Meanings -/

namespace Value

/-- The value as a truth value. -/
def bool? : Value → Option Bool
  | boolean b => some b
  | _ => none

/-- The value as a text. -/
def text? : Value → Option String
  | string content => content
  | _ => none

/-- The value as a text, or as none. -/
def optionalText? : Value → Option (Option String)
  | null => some none
  | v => v.text?.map some

/-- The value as a list, with a meaning for the elements. -/
def list? (meaning : Value → Option α) : Value → Option (List α)
  | list vs => vs.mapM meaning
  | _ => none

/-- The value as a record, with a meaning for the fields in order and one for the members. -/
def record? (ofElements : List Value → Option α) (ofMembers : List Member → Option α) :
    Value → Option α
  | list vs => ofElements vs
  | object ms => ofMembers ms
  | _ => none

end Value

/-- What fields in order mean: they take their values from the front of a list. -/
abbrev Fields := StateT (List Value) Option

/-- What the next field means, if there is one. -/
def nextField? (meaning : Value → Option α) : Fields (Option α)
  | [] => some (none, [])
  | v :: vs => (meaning v).map fun a => (some a, vs)

/-- What the fields of a list mean, none of which may be left. -/
def Fields.of? (fields : Fields α) (vs : List Value) : Option α :=
  match fields vs with
  | some (a, []) => some a
  | _ => none

/-- What members mean, one after the other; `meaning` says what one member makes of what has been
read. -/
def members? (meaning : String → Value → σ → Option σ) : List Member → σ → Option σ
  | [], s => some s
  | (none, _) :: _, _ => none
  | (some key, v) :: ms, s => (meaning key v s).bind (members? meaning ms)

/-- What a member means that is known by name: it must not come twice. -/
def field? (old : Option α) (new : Option α) : Option (Option α) :=
  if old.isSome then none else new.map some

/-! ## Readers and meanings -/

namespace Reader

/-- In front of a value the reader yields what the value means, or fails if that is nothing. -/
def Means (r : Reader α) (meaning : Value → Option α) : Prop :=
  ∀ ⦃v : Value⦄ ⦃i input rest : List Char⦄, SameToken i input → Written (.value v) input rest →
    Ends rest → Yields r i (meaning v) rest

/-- A value that is not what was wanted is refused. -/
theorem fails_otherType (wanted : String) (c : Char) (input : List Char) :
    Fails (otherType wanted c : Reader α) input := by
  have hrefuse {β : Type} (r : Reader β) (f : β → Cause) :
      Refuses (do refuse (f (← r)) : Reader α) := refuses_bind fun b => refuses_refuse (f b)
  have hident (letters : String) (cause : Cause) :
      Refuses (do eat; ident letters; refuse cause : Reader α) :=
    refuses_bind fun _ => refuses_bind fun _ => refuses_refuse cause
  refine Fails.placed (Refuses.fails ?_ input)
  split_ifs
  · exact hident "ull" _
  · exact hident "rue" _
  · exact hident "alse" _
  · exact refuses_bind fun _ => hrefuse (number false) _
  · exact hrefuse (number true) _
  · exact refuses_bind fun _ => hrefuse string _
  · exact refuses_refuse _
  · exact refuses_refuse _
  · exact refuses_failNext _

/-- The reader stops at the first character of a value, without the white space before it. -/
theorem reads_valueStart_same (hi : SameToken i (c :: input)) (hc : isSpace c = false) :
    Reads valueStart i c (c :: input) :=
  (reads_token?_same hi hc).bind (reads_pure c)

/-- A number is not wanted if no value is that begins with a digit. -/
theorem fails_number {f : Char → Reader α} (hi : SameToken i input) (h : Unsigned input rest)
    (hf : ∀ c ∈ digitMarks, ∀ input, Fails (f c) input) : Fails (valueStart >>= f) i := by
  obtain ⟨c, cs, rfl, hc⟩ := h.starts
  have hspace := (not_endMark_of_mem_startMarks c (mem_startMarks_of_isDigit hc)).1
  exact (reads_valueStart_same hi hspace).fails (hf c (mem_digitMarks_of_isDigit hc) _)

/-! ## Truth values and strings -/

/-- Where a truth value is asked for, `true` and `false` are read, and no other value is. -/
theorem means_boolValue : Means boolValue Value.bool? := by
  intro v i input rest hi h _
  cases h with
  | true => exact (reads_valueStart_same hi (by decide)).bind <| reads_eat.bind <|
      (reads_ident "rue").bind (reads_pure true)
  | false => exact (reads_valueStart_same hi (by decide)).bind <| reads_eat.bind <|
      (reads_ident "alse").bind (reads_pure false)
  | number h =>
    refine fails_number hi h fun c hc input => ?_
    fin_cases hc <;> exact fails_otherType _ _ _
  | _ => exact (reads_valueStart_same hi (by decide)).fails (fails_otherType _ _ _)

/-- Where a text is asked for, a string is read as its content if it has one. -/
theorem means_stringValue : Means stringValue Value.text? := by
  intro v i input rest hi h _
  cases h with
  | string h =>
    exact (reads_valueStart_same hi (by decide)).yields (reads_eat.yields (yields_string h))
  | number h =>
    refine fails_number hi h fun c hc input => ?_
    fin_cases hc <;> exact fails_otherType _ _ _
  | _ => exact (reads_valueStart_same hi (by decide)).fails (fails_otherType _ _ _)

/-- Where a text or none is asked for, `null` is read as none. -/
theorem means_optionalStringValue : Means optionalStringValue Value.optionalText? := by
  intro v i input rest hi h hends
  have hstring := means_stringValue (i := input) rfl h hends
  cases h with
  | null => exact (reads_token?_same hi (by decide)).bind <| reads_eat.bind <|
      (reads_ident "ull").bind (reads_pure none)
  | number h =>
    obtain ⟨c, cs, rfl, hc⟩ := h.starts
    have hspace := (not_endMark_of_mem_startMarks c (mem_startMarks_of_isDigit hc)).1
    refine (reads_token?_same hi hspace).yields ?_
    split
    · rename_i heq
      obtain rfl := Option.some.inj heq
      exact absurd hc (by decide)
    · exact hstring.map
  | _ => exact (reads_token?_same hi (by decide)).yields hstring.map

/-! ## Lists -/

/-- The elements of a list from the next one on; `first` says that there are none before it. -/
def elementsFrom (first : Bool) (vs : List Value) : Phrase :=
  if first then .elements vs else .moreElements vs

section List

variable {r : Reader α} {meaning : Value → Option α} {first : Bool} {v : Value} {vs : List Value}

/-- There is no next element where the list ends. -/
theorem reads_element?_nil (hi : SameToken i input)
    (h : Written (elementsFrom first []) input rest) :
    Reads (element? first r) i none (']' :: rest) := by
  have hend : SameToken i (']' :: rest) := by
    cases first with
    | true =>
      cases h with
      | noElements hblank => exact hi.trans hblank.sameToken
    | false =>
      cases h with
      | endOfList => exact hi
  have hmore : Reads (hasElement first) i false (']' :: rest) :=
    (reads_token?_same hend (by decide)).bind (reads_pure false)
  exact hmore.bind (reads_pure none)

/-- The list goes on with a value, and the others stand behind it. -/
theorem reads_hasElement (hi : SameToken i input)
    (h : Written (elementsFrom first (v :: vs)) input rest) :
    ∃ j j' mid, Reads (hasElement first) i true j ∧ Written (.value v) j j' ∧ Ends j' ∧
      SameToken j' mid ∧ Written (.moreElements vs) mid rest := by
  have hpart {input mid : List Char} (h : Written (.element v) input mid)
      (hmore : Written (.moreElements vs) mid rest) :
      ∃ c cs j', Blank input (c :: cs) ∧ c ∈ startMarks ∧ Written (.value v) (c :: cs) j' ∧
        Ends j' ∧ SameToken j' mid := by
    cases h with
    | element hbefore h hafter =>
      obtain ⟨c, cs, rfl, hc⟩ := h.starts
      exact ⟨c, cs, _, hbefore, v.mem_startMarks hc, h, hafter.ends hmore.ends_of_moreElements,
        hafter.sameToken⟩
  cases first with
  | true =>
    cases h with
    | elements h hmore =>
      obtain ⟨c, cs, j', hbefore, hc, hvalue, hends, hafter⟩ := hpart h hmore
      obtain ⟨hspace, hclose, -, -⟩ := not_endMark_of_mem_startMarks c hc
      refine ⟨_, j', _, (reads_token?_same (hi.trans hbefore.sameToken) hspace).bind ?_, hvalue,
        hends, hafter, hmore⟩
      split
      · contradiction
      · rename_i heq
        exact absurd (Option.some.inj heq) hclose
      · exact reads_pure true
  | false =>
    cases h with
    | moreElements h hmore =>
      obtain ⟨c, cs, j', hbefore, hc, hvalue, hends, hafter⟩ := hpart h hmore
      obtain ⟨hspace, hclose, -, -⟩ := not_endMark_of_mem_startMarks c hc
      refine ⟨_, j', _, (reads_token?_same hi (by decide)).bind <| reads_eat.bind <|
        (reads_token?_same hbefore.sameToken hspace).bind ?_, hvalue, hends, hafter, hmore⟩
      split
      · rename_i heq
        exact absurd (Option.some.inj heq) hclose
      · exact reads_pure true
      · contradiction

/-- The next element is read, and the list goes on behind it. -/
theorem Means.element?_cons (hr : Means r meaning) (hi : SameToken i input)
    (h : Written (elementsFrom first (v :: vs)) input rest) :
    ∃ j mid, SameToken j mid ∧ Written (.moreElements vs) mid rest ∧
      Yields (element? first r) i ((meaning v).map some) j := by
  obtain ⟨j, j', mid, hmore, hvalue, hends, hj, hvs⟩ := reads_hasElement hi h
  exact ⟨j', mid, hj, hvs, hmore.yields (hr rfl hvalue hends).map⟩

/-- The elements up to the end of the list are read one after the other, with fuel for each of them
and for the end. -/
theorem Means.elements (hr : Means r meaning) {fuel : Nat} (hfuel : vs.length < fuel)
    (hi : SameToken i input) (h : Written (elementsFrom first vs) input rest) :
    Yields (elements r fuel first) i (vs.mapM meaning) (']' :: rest) := by
  induction vs generalizing fuel first i input with
  | nil =>
    obtain ⟨n, rfl⟩ := Nat.exists_eq_add_one.2 hfuel
    exact (reads_element?_nil hi h).bind (reads_pure [])
  | cons v vs ih =>
    obtain ⟨n, rfl⟩ := Nat.exists_eq_add_one.2 (Nat.zero_lt_of_lt hfuel)
    obtain ⟨j, mid, hj, hvs, hv⟩ := hr.element?_cons hi h
    have hrest : Yields (elements r n false) j (vs.mapM meaning) (']' :: rest) :=
      ih (Nat.lt_of_succ_lt_succ hfuel) hj hvs
    rw [List.mapM_cons]
    cases hmeaning : meaning v with
    | none =>
      rw [hmeaning] at hv
      exact Fails.bind hv
    | some a =>
      rw [hmeaning] at hv
      have hmore := hrest.map (g := (a :: ·))
      rw [Option.map_eq_bind] at hmore
      exact Reads.yields hv hmore

/-- A list is read if all of its elements mean something, and no other value is. -/
theorem means_listValue (hr : Means r meaning) : Means (listValue r) (Value.list? meaning) := by
  intro v i input rest hi h _
  cases h with
  | @list vs input _ h =>
    have hlength := h.length_le
    have helements : Yields (do elements r (← budget) true) input (vs.mapM meaning) (']' :: rest) :=
      reads_budget.yields (hr.elements (by simp only [Phrase.minLength] at hlength; omega) rfl h)
    exact (reads_valueStart_same hi (by decide)).yields
      (reads_eat.yields (helements.enclosed reads_listEnd)).placed
  | number h =>
    refine fails_number hi h fun c hc input => ?_
    fin_cases hc <;> exact fails_otherType _ _ _
  | _ => exact (reads_valueStart_same hi (by decide)).fails (fails_otherType _ _ _)

/-- A list does not end where it goes on. -/
theorem fails_listEnd (hi : SameToken i input) (h : Written (.moreElements (v :: vs)) input rest) :
    Fails listEnd i := by
  cases h with
  | moreElements =>
    refine (reads_token?_same hi (by decide)).fails (Refuses.fails (refuses_bind fun _ => ?_) _)
    refine refuses_bind fun c => ?_
    split
    · exact refuses_failNext _
    · exact refuses_failNext _

end List

/-! ## Fields in order -/

/-- The reader takes its fields from a list, of which it may leave some. -/
def MeansFields (first : Bool) (r : Reader α) (fields : Fields α) : Prop :=
  ∀ ⦃vs : List Value⦄ ⦃i input rest : List Char⦄, SameToken i input →
    Written (elementsFrom first vs) input rest →
    (fields vs = none → Fails r i) ∧
    ∀ {a : α} {us : List Value}, fields vs = some (a, us) →
      ∃ j mid, SameToken j mid ∧ Written (.moreElements us) mid rest ∧ Reads r i a j

section Fields

variable {first : Bool} {r : Reader α} {fields : Fields α}

/-- Behind the last field nothing is taken from the list. -/
theorem meansFields_pure (a : α) : MeansFields false (pure a) (pure a) := by
  intro vs i input rest hi h
  refine ⟨fun hnone => (by cases hnone), fun hsome => ?_⟩
  obtain ⟨rfl, rfl⟩ := Prod.mk.inj (Option.some.inj hsome)
  exact ⟨i, input, hi, h, reads_pure a⟩

/-- A list that is refused means nothing, whatever is left of it. -/
theorem meansFields_refuse (cause : Cause) :
    MeansFields first (refuse cause : Reader α) failure := by
  intro vs i input rest _ _
  exact ⟨fun _ => (refuses_refuse cause).fails i, fun hsome => by cases hsome⟩

/-- The fields after the first ones take what these have left. -/
theorem MeansFields.bind {f : α → Reader β} {next : α → Fields β} (hr : MeansFields first r fields)
    (hf : ∀ a, MeansFields false (f a) (next a)) :
    MeansFields first (r >>= f) (fields >>= next) := by
  intro vs i input rest hi h
  obtain ⟨hnone, hsome⟩ := hr hi h
  have hbind : (fields >>= next) vs = (fields vs).bind fun p => next p.1 p.2 := rfl
  rw [hbind]
  cases hfields : fields vs with
  | none => exact ⟨fun _ => (hnone hfields).bind, fun hsome => by cases hsome⟩
  | some p =>
    obtain ⟨a, us⟩ := p
    obtain ⟨j, mid, hj, hus, hreads⟩ := hsome hfields
    obtain ⟨hnone', hsome'⟩ := hf a hj hus
    refine ⟨fun hnext => hreads.fails (hnone' hnext), fun hnext => ?_⟩
    obtain ⟨j', mid', hj', hus', hreads'⟩ := hsome' hnext
    exact ⟨j', mid', hj', hus', hreads.bind hreads'⟩

/-- The next element is a field, which may be missing. -/
theorem Means.element? {meaning : Value → Option α} (hr : Means r meaning) :
    MeansFields first (element? first r) (nextField? meaning) := by
  intro vs i input rest hi h
  cases vs with
  | nil =>
    refine ⟨fun hnone => (by cases hnone), fun hsome => ?_⟩
    obtain ⟨rfl, rfl⟩ := Prod.mk.inj (Option.some.inj hsome)
    exact ⟨_, _, rfl, .endOfList rest, reads_element?_nil hi h⟩
  | cons v vs =>
    obtain ⟨j, mid, hj, hvs, hv⟩ := hr.element?_cons hi h
    rw [nextField?]
    cases hmeaning : meaning v with
    | none =>
      rw [hmeaning] at hv
      exact ⟨fun _ => hv, fun hsome => by cases hsome⟩
    | some a =>
      rw [hmeaning] at hv
      refine ⟨fun hnone => (by cases hnone), fun hsome => ?_⟩
      obtain ⟨rfl, rfl⟩ := Prod.mk.inj (Option.some.inj hsome)
      exact ⟨j, mid, hj, hvs, hv⟩

/-- A list is read if its fields are and none is left. -/
theorem MeansFields.enclosed (hr : MeansFields true r fields) {vs : List Value}
    (h : Written (.elements vs) input rest) :
    Yields (enclosed r listEnd) input (fields.of? vs) rest := by
  obtain ⟨hnone, hsome⟩ := hr rfl h
  rw [Fields.of?]
  split
  · rename_i a hfields
    obtain ⟨j, mid, hj, hus, hreads⟩ := hsome hfields
    cases hus with
    | endOfList =>
      have hend : Reads listEnd j () rest := (reads_token?_same hj (by decide)).bind reads_eat
      exact hreads.enclosed hend
  · rename_i hfields
    cases hvs : fields vs with
    | none => exact (hnone hvs).enclosed
    | some p =>
      obtain ⟨a, us⟩ := p
      obtain ⟨j, mid, hj, hus, hreads⟩ := hsome hvs
      cases us with
      | nil => exact absurd hvs (hfields a)
      | cons u us => exact hreads.enclosed_fails (fails_listEnd hj hus)

end Fields

/-! ## Objects -/

/-- The members of an object from the next one on; `first` says that there are none before it. -/
def membersFrom (first : Bool) (ms : List Member) : Phrase :=
  if first then .members ms else .moreMembers ms

/-- From behind the key, the reader makes of what has been read what the member means. -/
def MeansMember (member : String → σ → Reader σ) (meaning : String → Value → σ → Option σ) : Prop :=
  ∀ ⦃key : String⦄ ⦃v : Value⦄ ⦃s : σ⦄ ⦃i i₁ input rest : List Char⦄, SameToken i (':' :: i₁) →
    SameToken i₁ input → Written (.value v) input rest → Ends rest →
    Yields (member key s) i (meaning key v s) rest

section Object

variable {r : Reader α} {meaning : Value → Option α} {v : Value} {i₁ : List Char}

/-- A colon is read where one stands, whatever white space is before it. -/
theorem reads_colon (hi : SameToken i (':' :: i₁)) : Reads colon i () i₁ :=
  (reads_token?_same hi (by decide)).bind reads_eat

/-- A field that is known by name is read as its value, unless it has come before. -/
theorem Means.field (hr : Means r meaning) (name : String) (old : Option α)
    (hcolon : SameToken i (':' :: i₁)) (hi : SameToken i₁ input) (h : Written (.value v) input rest)
    (hends : Ends rest) : Yields (field name old r) i (field? old (meaning v)) rest := by
  cases old with
  | some a => exact (refuses_refuse _).bind.fails i
  | none => exact (reads_colon hcolon).yields (hr hi h hends).map

/-- A field that is not known is passed over with its value. -/
theorem reads_unknownField (hcolon : SameToken i (':' :: i₁)) (hi : SameToken i₁ input)
    (h : Written (.value v) input rest) (hends : Ends rest) : Reads unknownField i () rest :=
  (reads_colon hcolon).bind (reads_ignored h hends hi)

variable {member : String → σ → Reader σ} {memberMeaning : String → Value → σ → Option σ}
  {first : Bool} {ms : List Member} {s : σ}

/-- There is no next key where the object ends. -/
theorem reads_hasKey_nil (hi : SameToken i input) (h : Written (membersFrom first []) input rest) :
    Reads (hasKey first) i false ('}' :: rest) := by
  have hend : SameToken i ('}' :: rest) := by
    cases first with
    | true =>
      cases h with
      | noMembers hblank => exact hi.trans hblank.sameToken
    | false =>
      cases h with
      | endOfObject => exact hi
  exact (reads_token?_same hend (by decide)).bind (reads_pure false)

/-- The object goes on with a key, a colon and a value, and the other members stand behind it. -/
theorem reads_hasKey {key : Option String} (hi : SameToken i input)
    (h : Written (membersFrom first ((key, v) :: ms)) input rest) :
    ∃ i₁ i₂ i₃ j j' mid, Reads (hasKey first) i true ('"' :: i₁) ∧ Content i₁ key i₂ ∧
      SameToken i₂ (':' :: i₃) ∧ SameToken i₃ j ∧ Written (.value v) j j' ∧ Ends j' ∧
      SameToken j' mid ∧ Written (.moreMembers ms) mid rest := by
  have hpart {input mid : List Char} (h : Written (.member (key, v)) input mid)
      (hmore : Written (.moreMembers ms) mid rest) :
      ∃ i₁ i₂ i₃ j j', SameToken input ('"' :: i₁) ∧ Content i₁ key i₂ ∧ SameToken i₂ (':' :: i₃) ∧
        SameToken i₃ j ∧ Written (.value v) j j' ∧ Ends j' ∧ SameToken j' mid := by
    cases h with
    | member hbefore hkey hcolon h =>
      cases h with
      | element hbefore' h hafter =>
        exact ⟨_, _, _, _, _, hbefore.sameToken, hkey, hcolon.sameToken, hbefore'.sameToken, h,
          hafter.ends hmore.ends_of_moreMembers, hafter.sameToken⟩
  cases first with
  | true =>
    cases h with
    | members h hmore =>
      obtain ⟨i₁, i₂, i₃, j, j', hbefore, hparts⟩ := hpart h hmore
      obtain ⟨hkey, hcolon, hj, hvalue, hends, hafter⟩ := hparts
      exact ⟨i₁, i₂, i₃, j, j', _,
        (reads_token?_same (hi.trans hbefore) (by decide)).bind (reads_pure true),
        hkey, hcolon, hj, hvalue, hends, hafter, hmore⟩
  | false =>
    cases h with
    | moreMembers h hmore =>
      obtain ⟨i₁, i₂, i₃, j, j', hbefore, hparts⟩ := hpart h hmore
      obtain ⟨hkey, hcolon, hj, hvalue, hends, hafter⟩ := hparts
      exact ⟨i₁, i₂, i₃, j, j', _,
        (reads_token?_same hi (by decide)).bind <| reads_eat.bind <|
          (reads_token?_same hbefore (by decide)).bind (reads_pure true),
        hkey, hcolon, hj, hvalue, hends, hafter, hmore⟩

/-- **Members are read one after the other**, each into what the ones before it mean. -/
theorem MeansMember.yields_members (hmember : MeansMember member memberMeaning) {fuel : Nat}
    (hfuel : ms.length < fuel) (hi : SameToken i input)
    (h : Written (membersFrom first ms) input rest) :
    Yields (members member fuel first s) i (members? memberMeaning ms s) ('}' :: rest) := by
  induction ms generalizing fuel first s i input with
  | nil =>
    obtain ⟨n, rfl⟩ := Nat.exists_eq_add_one.2 hfuel
    exact (reads_hasKey_nil hi h).bind (reads_pure s)
  | cons m ms ih =>
    obtain ⟨key, v⟩ := m
    obtain ⟨n, rfl⟩ := Nat.exists_eq_add_one.2 (Nat.zero_lt_of_lt hfuel)
    obtain ⟨i₁, i₂, i₃, j, j', mid, hmore, hkey, hcolon, hj, hvalue, hends, hj', hms⟩ :=
      reads_hasKey hi h
    refine hmore.yields (reads_eat.yields ?_)
    cases key with
    | none => exact Fails.bind (yields_string hkey)
    | some key =>
      refine Reads.yields (yields_string hkey) ?_
      refine (hmember hcolon hj hvalue hends).bind fun s' _ => ?_
      have hrest : Yields (members member n false s') j' (members? memberMeaning ms s')
          ('}' :: rest) := ih (Nat.lt_of_succ_lt_succ hfuel) hj' hms
      exact hrest

/-- The text of the members is long enough to be the fuel for reading them. -/
theorem MeansMember.yields_members_budget (hmember : MeansMember member memberMeaning)
    (h : Written (.members ms) input rest) :
    Yields (do members member (← budget) true s) input (members? memberMeaning ms s)
      ('}' :: rest) := by
  have hlength := h.length_le
  simp only [Phrase.minLength] at hlength
  have hfirst : Written (membersFrom true ms) input rest := h
  exact reads_budget.yields (hmember.yields_members (by omega) rfl hfirst)

end Object

/-! ## Records and documents -/

/-- A record is read from a list if its fields are, and from an object if its members are; no other
value is one. -/
theorem means_recordValue {wanted : String} {fields object : Reader α}
    {ofElements : List Value → Option α} {ofMembers : List Member → Option α}
    (hfields : ∀ {vs : List Value} {input rest : List Char}, Written (.elements vs) input rest →
      Yields (enclosed fields listEnd) input (ofElements vs) rest)
    (hobject : ∀ {ms : List Member} {input rest : List Char}, Written (.members ms) input rest →
      Yields object input (ofMembers ms) ('}' :: rest)) :
    Means (recordValue wanted fields object) (Value.record? ofElements ofMembers) := by
  intro v i input rest hi h _
  cases h with
  | list h =>
    exact (reads_valueStart_same hi (by decide)).yields (reads_eat.yields (hfields h)).placed
  | object h =>
    exact (reads_valueStart_same hi (by decide)).yields
      (reads_eat.yields ((hobject h).enclosed reads_objectEnd)).placed
  | number h =>
    refine fails_number hi h fun c hc input => ?_
    fin_cases hc <;> exact fails_otherType _ _ _
  | _ => exact (reads_valueStart_same hi (by decide)).fails (fails_otherType _ _ _)

/-- **A document is read as what its value means**, and it is refused if that is nothing. -/
theorem Means.document {r : Reader α} {meaning : Value → Option α} (hr : Means r meaning)
    {v : Value} {text : List Char} (h : Written (.element v) text []) (medium : Medium) :
    (document r medium (text.map .char)).toOption = meaning v := by
  cases h with
  | @element _ _ _ i₂ _ hbefore h hafter =>
    have hvalue := hr hbefore.sameToken h (hafter.ends fun c hc => by cases hc)
    have hend : Reads documentEnd i₂ () [] := by
      have htoken := @reads_token? i₂
      rw [show i₂.dropWhile isSpace = [] from hafter.sameToken] at htoken
      exact htoken.bind (reads_pure ())
    cases hmeaning : meaning v with
    | none =>
      rw [hmeaning] at hvalue
      have hwhole : Fails (do let a ← r; documentEnd; return a) text := Fails.bind hvalue
      obtain ⟨e, i', hrun⟩ := hwhole ⟨medium, text.map .char, .first, false⟩ rfl
      exact congrArg (fun p => p.1.toOption) hrun
    | some a =>
      rw [hmeaning] at hvalue
      have hwhole : Reads (do let a ← r; documentEnd; return a) text a [] :=
        Reads.bind hvalue (hend.bind (reads_pure a))
      obtain ⟨i', hrun, -⟩ := hwhole ⟨medium, text.map .char, .first, false⟩ rfl
      exact congrArg (fun p => p.1.toOption) hrun

end Reader

end Descent.Json
