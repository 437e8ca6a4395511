import Descent.Proofs.Config.Meaning
import Mathlib.Data.List.Forall2

/-!
# Renderings of configurations

A configuration can be rendered as an object in many ways: the members may come in any order, those
that say nothing may be left out or not, and there may be others that nobody knows. All that counts
is which values the known names have (`valuesOf`). `Config.Rendered` says that they are those of the
configuration, and `Config.Faulty` that a known name comes twice, that a rule has no pattern, or
that a known name has a value of another type than it must have.

All renderings are read as the configuration, however they are written, and nothing faulty is read
at all (`Config.read_object`).
-/

namespace Descent

open Json Json.Reader

variable {α : Type}

/-! ## The values of a name -/

/-- The values of the members with the name. -/
def valuesOf (name : String) : List Member → List Value
  | [] => []
  | (key, v) :: ms => if key = some name then v :: valuesOf name ms else valuesOf name ms

/-- All keys are texts. -/
def KeysAreTexts (ms : List Member) : Prop := ∀ m ∈ ms, m.1.isSome = true

theorem valuesOf_cons_self (name : String) (v : Value) (ms : List Member) :
    valuesOf name ((some name, v) :: ms) = v :: valuesOf name ms := if_pos rfl

theorem valuesOf_cons_of_ne {name key : String} (h : key ≠ name) (v : Value) (ms : List Member) :
    valuesOf name ((some key, v) :: ms) = valuesOf name ms :=
  if_neg fun hkey => h (Option.some.inj hkey)

/-- What the values of a name mean, one after the other, of which there may be only one. -/
def fieldOf? (meaning : Value → Option α) : Option α → List Value → Option (Option α)
  | old, [] => some old
  | old, v :: vs => (field? old (meaning v)).bind fun new => fieldOf? meaning new vs

variable {meaning : Value → Option α} {vs : List Value}

theorem fieldOf?_single {v : Value} {a : α} (h : meaning v = some a) :
    fieldOf? meaning none [v] = some (some a) := by
  rw [fieldOf?, h]
  rfl

theorem fieldOf?_eq_none_of_two (h : 2 ≤ vs.length) : fieldOf? meaning none vs = none := by
  obtain _ | ⟨v, _ | ⟨w, vs⟩⟩ := vs
  · contradiction
  · exact absurd h (Nat.not_succ_le_self 1)
  · rw [fieldOf?]
    cases meaning v with
    | none => rfl
    | some a => rfl

theorem fieldOf?_eq_none_of_mem {v : Value} (hv : v ∈ vs) (h : meaning v = none) (old : Option α) :
    fieldOf? meaning old vs = none := by
  induction vs generalizing old with
  | nil => cases hv
  | cons w vs ih =>
    rw [fieldOf?]
    obtain rfl | hv := List.mem_cons.1 hv
    · cases old <;> simp [field?, h]
    · rw [Option.bind_eq_none_iff]
      exact fun new _ => ih hv new

/-- A key that is no text is refused. -/
theorem members?_eq_none {σ : Type} {meaning : String → Value → σ → Option σ} {ms : List Member}
    (h : ¬ KeysAreTexts ms) (s : σ) : members? meaning ms s = none := by
  induction ms generalizing s with
  | nil => exact absurd (fun _ hm => by cases hm) h
  | cons m ms ih =>
    obtain ⟨_ | key, v⟩ := m
    · rfl
    · have hms : ¬ KeysAreTexts ms := fun hms => h (List.forall_mem_cons.2 ⟨rfl, hms⟩)
      rw [members?, Option.bind_eq_none_iff]
      exact fun s' _ => ih hms s'

theorem bool?_eq_none {v : Value} (h : ∀ b, v ≠ .boolean b) : v.bool? = none := by
  cases v with
  | boolean b => exact absurd rfl (h b)
  | _ => rfl

/-- A mark may be missing if it is false. -/
theorem flag_of_mem {b : Bool} (h : vs ∈ if b then [[.boolean true]] else [[], [.boolean false]]) :
    ∃ flag, fieldOf? Value.bool? none vs = some flag ∧ flag.getD false = b := by
  cases b with
  | true =>
    rw [List.mem_singleton.1 h]
    exact ⟨some true, rfl, rfl⟩
  | false =>
    obtain rfl | rfl : vs = [] ∨ vs = [.boolean false] := by simpa using h
    · exact ⟨none, rfl, rfl⟩
    · exact ⟨some false, rfl, rfl⟩

/-- A list with an element that means nothing means nothing. -/
theorem mapM_eq_none {v : Value} (hv : v ∈ vs) (h : meaning v = none) : vs.mapM meaning = none := by
  induction vs with
  | nil => cases hv
  | cons w vs ih =>
    rw [List.mapM_cons]
    obtain rfl | hv := List.mem_cons.1 hv
    · rw [h]
      rfl
    · rw [ih hv]
      exact Option.bind_fun_none _

namespace RuleConfig

variable {ms : List Member}

/-- Each field of a rule is told by the values of its name alone. -/
theorem members?_eq (hkeys : KeysAreTexts ms) (m : Members) :
    members? memberMeaning? ms m =
      (fieldOf? Value.text? m.pattern (valuesOf "pattern" ms)).bind fun pattern =>
      (fieldOf? Value.optionalText? m.kind (valuesOf "kind" ms)).bind fun kind =>
      (fieldOf? Value.bool? m.skip (valuesOf "skip" ms)).map fun skip => ⟨pattern, kind, skip⟩ := by
  induction ms generalizing m with
  | nil => rfl
  | cons member ms ih =>
    obtain ⟨_ | key, v⟩ := member
    · cases hkeys _ List.mem_cons_self
    replace hkeys : KeysAreTexts ms := (List.forall_mem_cons.1 hkeys).2
    rw [members?]
    by_cases hpattern : key = "pattern"
    · subst hpattern
      rw [valuesOf_cons_self, valuesOf_cons_of_ne (by decide), valuesOf_cons_of_ne (by decide),
        fieldOf?, memberMeaning?]
      cases field? m.pattern v.text? with
      | none => rfl
      | some pattern => exact ih hkeys _
    by_cases hkind : key = "kind"
    · subst hkind
      rw [valuesOf_cons_self, valuesOf_cons_of_ne (by decide), valuesOf_cons_of_ne (by decide),
        fieldOf?, memberMeaning?]
      cases field? m.kind v.optionalText? with
      | none => exact (Option.bind_fun_none _).symm
      | some kind => exact ih hkeys _
    by_cases hskip : key = "skip"
    · subst hskip
      rw [valuesOf_cons_self, valuesOf_cons_of_ne (by decide), valuesOf_cons_of_ne (by decide),
        fieldOf?, memberMeaning?]
      cases field? m.skip v.bool? with
      | none => simp
      | some skip => exact ih hkeys _
    rw [valuesOf_cons_of_ne hpattern, valuesOf_cons_of_ne hkind, valuesOf_cons_of_ne hskip,
      memberMeaning?_of_ne hpattern hkind hskip]
    exact ih hkeys m

/-- What an object means as a rule is told by the values of the known names alone. -/
theorem membersMeaning?_eq (hkeys : KeysAreTexts ms) :
    membersMeaning? ms =
      (fieldOf? Value.text? none (valuesOf "pattern" ms)).bind fun pattern =>
      (fieldOf? Value.optionalText? none (valuesOf "kind" ms)).bind fun kind =>
      (fieldOf? Value.bool? none (valuesOf "skip" ms)).bind fun skip =>
      Members.toRule? ⟨pattern, kind, skip⟩ := by
  simp only [membersMeaning?, members?_eq hkeys, Option.bind_assoc, Option.bind_map]
  rfl

/-! ## Rules -/

/-- The members render the rule: they have its fields, of which those that say nothing may be
missing. -/
structure Rendered (r : RuleConfig) (ms : List Member) : Prop where
  keys : KeysAreTexts ms
  pattern : valuesOf "pattern" ms = [.string (some r.pattern)]
  kind : valuesOf "kind" ms ∈ r.kind.elim [[], [.null]] fun kind => [[.string (some kind)]]
  skip : valuesOf "skip" ms ∈ if r.skip then [[.boolean true]] else [[], [.boolean false]]

/-- The members are those of no rule: a known name comes twice, there is no pattern, or a known name
has a value of another type than it must have. -/
inductive Faulty (ms : List Member) : Prop where
  | twice {name : String} (hname : name ∈ ["pattern", "kind", "skip"])
      (h : 2 ≤ (valuesOf name ms).length)
  | missing (h : valuesOf "pattern" ms = [])
  | pattern {v : Value} (hv : v ∈ valuesOf "pattern" ms) (h : ∀ content, v ≠ .string content)
  | kind {v : Value} (hv : v ∈ valuesOf "kind" ms) (hnull : v ≠ .null)
      (h : ∀ content, v ≠ .string content)
  | skip {v : Value} (hv : v ∈ valuesOf "skip" ms) (h : ∀ b, v ≠ .boolean b)

variable {r : RuleConfig}

/-- **Members that render a rule mean that rule.** -/
theorem Rendered.meaning_eq (h : r.Rendered ms) : membersMeaning? ms = some r := by
  obtain ⟨pattern, kind, skip⟩ := r
  have hkind : ∃ k, fieldOf? Value.optionalText? none (valuesOf "kind" ms) = some k ∧
      k.getD none = kind := by
    have hvalues := h.kind
    cases kind with
    | none =>
      obtain hvalues | hvalues : valuesOf "kind" ms = [] ∨ valuesOf "kind" ms = [.null] := by
        simpa using hvalues
      · exact ⟨none, by rw [hvalues]; rfl, rfl⟩
      · exact ⟨some none, by rw [hvalues]; rfl, rfl⟩
    | some kind =>
      rw [List.mem_singleton.1 hvalues]
      exact ⟨some (some kind), rfl, rfl⟩
  have hskip : ∃ b, fieldOf? Value.bool? none (valuesOf "skip" ms) = some b ∧
      b.getD false = skip := flag_of_mem h.skip
  obtain ⟨k, hk, rfl⟩ := hkind
  obtain ⟨b, hb, rfl⟩ := hskip
  have hpattern : fieldOf? Value.text? none [.string (some pattern)] = some (some pattern) := rfl
  rw [membersMeaning?_eq h.keys, h.pattern, hpattern, hk, hb]
  rfl

theorem mapM_eq_some {rules : List RuleConfig} {mss : List (List Member)}
    (h : List.Forall₂ Rendered rules mss) : (mss.map Value.object).mapM meaning? = some rules := by
  induction h with
  | nil => rfl
  | @cons r ms rules mss h _ ih =>
    have hmeaning : meaning? (.object ms) = some r := h.meaning_eq
    rw [List.map_cons, List.mapM_cons, hmeaning, ih]
    rfl

/-- Faulty members mean no rule. -/
theorem Faulty.meaning_eq (h : Faulty ms) : membersMeaning? ms = none := by
  by_cases hkeys : KeysAreTexts ms
  swap
  · rw [membersMeaning?, members?_eq_none hkeys]
    rfl
  have hpattern (h : fieldOf? Value.text? none (valuesOf "pattern" ms) = none) :
      membersMeaning? ms = none := by
    rw [membersMeaning?_eq hkeys, h]
    rfl
  have hkind (h : fieldOf? Value.optionalText? none (valuesOf "kind" ms) = none) :
      membersMeaning? ms = none := by
    simp only [membersMeaning?_eq hkeys, h, Option.bind_none, Option.bind_fun_none]
  have hskip (h : fieldOf? Value.bool? none (valuesOf "skip" ms) = none) :
      membersMeaning? ms = none := by
    simp only [membersMeaning?_eq hkeys, h, Option.bind_none, Option.bind_fun_none]
  cases h with
  | @twice name hname h =>
    simp only [List.mem_cons, List.not_mem_nil, or_false] at hname
    obtain rfl | rfl | rfl := hname
    · exact hpattern (fieldOf?_eq_none_of_two h)
    · exact hkind (fieldOf?_eq_none_of_two h)
    · exact hskip (fieldOf?_eq_none_of_two h)
  | missing h => simp [membersMeaning?_eq hkeys, h, fieldOf?, Members.toRule?]
  | @pattern v hv h =>
    refine hpattern (fieldOf?_eq_none_of_mem hv ?_ none)
    cases v with
    | string content => exact absurd rfl (h content)
    | _ => rfl
  | @kind v hv hnull h =>
    refine hkind (fieldOf?_eq_none_of_mem hv ?_ none)
    cases v with
    | null => exact absurd rfl hnull
    | string content => exact absurd rfl (h content)
    | _ => rfl
  | skip hv h => exact hskip (fieldOf?_eq_none_of_mem hv (bool?_eq_none h) none)

end RuleConfig

namespace Config

variable {ms : List Member}

/-- Each field of a configuration is told by the values of its name alone. -/
theorem members?_eq (hkeys : KeysAreTexts ms) (m : Members) :
    members? memberMeaning? ms m =
      (fieldOf? Value.bool? m.caseInsensitive (valuesOf "case_insensitive" ms)).bind fun b =>
      (fieldOf? (Value.list? RuleConfig.meaning?) m.rules (valuesOf "rules" ms)).map fun rules =>
      ⟨b, rules⟩ := by
  induction ms generalizing m with
  | nil => rfl
  | cons member ms ih =>
    obtain ⟨_ | key, v⟩ := member
    · cases hkeys _ List.mem_cons_self
    replace hkeys : KeysAreTexts ms := (List.forall_mem_cons.1 hkeys).2
    rw [members?]
    by_cases hcase : key = "case_insensitive"
    · subst hcase
      rw [valuesOf_cons_self, valuesOf_cons_of_ne (by decide), fieldOf?, memberMeaning?]
      cases field? m.caseInsensitive v.bool? with
      | none => rfl
      | some b => exact ih hkeys _
    by_cases hrules : key = "rules"
    · subst hrules
      rw [valuesOf_cons_self, valuesOf_cons_of_ne (by decide), fieldOf?, memberMeaning?]
      cases field? m.rules (v.list? RuleConfig.meaning?) with
      | none => exact (Option.bind_fun_none _).symm
      | some rules => exact ih hkeys _
    rw [valuesOf_cons_of_ne hcase, valuesOf_cons_of_ne hrules, memberMeaning?_of_ne hcase hrules]
    exact ih hkeys m

/-- What an object means as a configuration is told by the values of the known names alone. -/
theorem membersMeaning?_eq (hkeys : KeysAreTexts ms) :
    membersMeaning? ms =
      (fieldOf? Value.bool? none (valuesOf "case_insensitive" ms)).bind fun b =>
      (fieldOf? (Value.list? RuleConfig.meaning?) none (valuesOf "rules" ms)).map fun rules =>
      Members.toConfig ⟨b, rules⟩ := by
  simp only [membersMeaning?, members?_eq hkeys, Option.map_bind, Function.comp_def, Option.map_map]

/-- The members render the configuration: they have its fields, of which those that say nothing may
be missing, and each rule is rendered as an object. -/
structure Rendered (c : Config) (ms : List Member) : Prop where
  keys : KeysAreTexts ms
  caseInsensitive : valuesOf "case_insensitive" ms ∈
    if c.caseInsensitive then [[.boolean true]] else [[], [.boolean false]]
  rules : (c.rules = [] ∧ valuesOf "rules" ms = []) ∨
    ∃ mss : List (List Member), List.Forall₂ RuleConfig.Rendered c.rules mss ∧
      valuesOf "rules" ms = [.list (mss.map .object)]

/-- The members are those of no configuration: a known name comes twice, a known name has a value of
another type than it must have, or a rule is faulty. -/
inductive Faulty (ms : List Member) : Prop where
  | twice {name : String} (hname : name ∈ ["case_insensitive", "rules"])
      (h : 2 ≤ (valuesOf name ms).length)
  | caseInsensitive {v : Value} (hv : v ∈ valuesOf "case_insensitive" ms) (h : ∀ b, v ≠ .boolean b)
  | rules {v : Value} (hv : v ∈ valuesOf "rules" ms) (h : ∀ vs, v ≠ .list vs)
  | rule {vs : List Value} {rule : List Member} (hvs : .list vs ∈ valuesOf "rules" ms)
      (hrule : .object rule ∈ vs) (h : RuleConfig.Faulty rule)

variable {c : Config}

/-- **Members that render a configuration mean that configuration.** -/
theorem Rendered.meaning_eq (h : c.Rendered ms) : membersMeaning? ms = some c := by
  obtain ⟨caseInsensitive, rules⟩ := c
  have hrules : ∃ rs, fieldOf? (Value.list? RuleConfig.meaning?) none (valuesOf "rules" ms) =
      some rs ∧ rs.getD [] = rules := by
    obtain ⟨hrules, hvalues⟩ | ⟨mss, hmss, hvalues⟩ := h.rules
    · exact ⟨none, by rw [hvalues]; rfl, hrules.symm⟩
    · have hmeaning : (Value.list (mss.map .object)).list? RuleConfig.meaning? = some rules :=
        RuleConfig.mapM_eq_some hmss
      exact ⟨some rules, by rw [hvalues, fieldOf?_single hmeaning], rfl⟩
  obtain ⟨b, hb, hb'⟩ := flag_of_mem h.caseInsensitive
  obtain ⟨rs, hrs, hrs'⟩ := hrules
  rw [membersMeaning?_eq h.keys, hb, hrs]
  exact congrArg some (congrArg₂ Config.mk hb' hrs')

/-- Faulty members mean no configuration. -/
theorem Faulty.meaning_eq (h : Faulty ms) : membersMeaning? ms = none := by
  by_cases hkeys : KeysAreTexts ms
  swap
  · rw [membersMeaning?, members?_eq_none hkeys]
    rfl
  have hcase (h : fieldOf? Value.bool? none (valuesOf "case_insensitive" ms) = none) :
      membersMeaning? ms = none := by
    rw [membersMeaning?_eq hkeys, h]
    rfl
  have hrules (h : fieldOf? (Value.list? RuleConfig.meaning?) none (valuesOf "rules" ms) = none) :
      membersMeaning? ms = none := by
    simp only [membersMeaning?_eq hkeys, h, Option.map_none, Option.bind_fun_none]
  cases h with
  | @twice name hname h =>
    simp only [List.mem_cons, List.not_mem_nil, or_false] at hname
    obtain rfl | rfl := hname
    · exact hcase (fieldOf?_eq_none_of_two h)
    · exact hrules (fieldOf?_eq_none_of_two h)
  | caseInsensitive hv h => exact hcase (fieldOf?_eq_none_of_mem hv (bool?_eq_none h) none)
  | @rules v hv h =>
    refine hrules (fieldOf?_eq_none_of_mem hv ?_ none)
    cases v with
    | list vs => exact absurd rfl (h vs)
    | _ => rfl
  | rule hvs hrule h =>
    exact hrules (fieldOf?_eq_none_of_mem hvs (mapM_eq_none hrule h.meaning_eq) none)

/-- **All renderings of a configuration are read as that configuration**, and what is faulty is
refused, however it is written. -/
theorem read_object {text : String} (h : Written (.element (.object ms)) text.toList []) :
    (∀ c : Config, c.Rendered ms → read text = .ok c) ∧
      (Faulty ms → ∃ e, read text = .error (.document e)) := by
  have hread : (ofJson text).toOption = membersMeaning? ms := by
    have hmeaning := toOption_ofJson h
    rwa [String.ofList_toList] at hmeaning
  refine ⟨fun c hc => ?_, fun hfaulty => ?_⟩
  · rw [hc.meaning_eq] at hread
    cases hjson : ofJson text with
    | error e =>
      rw [hjson] at hread
      cases hread
    | ok c' =>
      rw [hjson] at hread
      obtain rfl := Option.some.inj hread
      rw [read, hjson]
      rfl
  · rw [hfaulty.meaning_eq] at hread
    cases hjson : ofJson text with
    | error e => exact ⟨e, by rw [read, hjson]; rfl⟩
    | ok c =>
      rw [hjson] at hread
      cases hread

theorem read_object_of_rule :
    read " \x7b\"rules\": [\x7b\"k\\u0069nd\":null,\"x\":[1],\"pattern\":\"a\"\x7d]\x7d" =
      .ok ⟨false, [⟨"a", none, false⟩]⟩ ∧
    ∃ e, read "\x7b\"rules\":[\x7b\x7d]\x7d" = .error (.document e) := by
  have hrules (rest : List Char) :
      Content ('r' :: 'u' :: 'l' :: 'e' :: 's' :: '"' :: rest) (some "rules") rest :=
    .of_plain ['r', 'u', 'l', 'e', 's'] (by decide) (by decide)
  have hkind (rest : List Char) : Written (.member (some "kind", .null))
      ('"' :: 'k' :: '\\' :: 'u' :: '0' :: '0' :: '6' :: '9' :: 'n' :: 'd' :: '"' :: ':' ::
        'n' :: 'u' :: 'l' :: 'l' :: rest) rest :=
    .member (.nil _)
      (Content.text <| .plain (by decide) (by decide) (by decide) <|
        .code (.digits (k := 0) (l := 0) (m := 6) (n := 9) rfl rfl rfl rfl _) (by decide)
          (by decide) <|
        .plain (by decide) (by decide) (by decide) <|
        .plain (by decide) (by decide) (by decide) <| .close _)
      (.nil _) (.element (.nil _) (.null _) (.nil _))
  have hone (rest : List Char) : Written (.element .number) ('1' :: ']' :: rest) (']' :: rest) :=
    .element (.nil _)
      (.number ⟨_, _, .digits (by decide) (by decide) (.nil _), .without _, .without _⟩) (.nil _)
  have hx (rest : List Char) : Written (.member (some "x", .list [.number]))
      ('"' :: 'x' :: '"' :: ':' :: '[' :: '1' :: ']' :: rest) rest :=
    .member (.nil _) (.of_plain ['x'] (by decide) (by decide)) (.nil _)
      (.element (.nil _) (.list (.elements (hone _) (.endOfList _))) (.nil _))
  have hpattern (rest : List Char) : Written (.member (some "pattern", .string (some "a")))
      ('"' :: 'p' :: 'a' :: 't' :: 't' :: 'e' :: 'r' :: 'n' :: '"' :: ':' :: '"' :: 'a' :: '"' ::
        rest) rest :=
    .member (.nil _)
      (.of_plain ['p', 'a', 't', 't', 'e', 'r', 'n'] (by decide) (by decide)) (.nil _)
      (.element (.nil _) (.string (.of_plain ['a'] (by decide) (by decide))) (.nil _))
  have hrule (rest : List Char) := Written.element (.nil _) (.object (.members (hkind _)
    (.moreMembers (hx _) (.moreMembers (hpattern _) (.endOfObject _))))) (.nil rest)
  have hlist (rest : List Char) := Written.element (.cons (c := ' ') rfl (.nil _))
    (.list (.elements (hrule _) (.endOfList _))) (.nil rest)
  have hwritten := Written.element (.cons (c := ' ') rfl (.nil _)) (.object
    (.members (.member (.nil _) (hrules _) (.nil _) (hlist _)) (.endOfObject _))) (.nil [])
  have hempty (rest : List Char) := Written.element (.nil _) (.object (.noMembers (.nil _)))
    (.nil rest)
  have hwritten' := Written.element (.nil _) (.object
    (.members (.member (.nil _) (hrules _) (.nil _)
      (.element (.nil _) (.list (.elements (hempty _) (.endOfList _))) (.nil _)))
      (.endOfObject _))) (.nil [])
  constructor
  · refine (read_object (Eq.substr (p := fun cs => Written _ cs []) (by decide) hwritten)).1 _ ?_
    have hrendered : RuleConfig.Rendered ⟨"a", none, false⟩
        [(some "kind", .null), (some "x", .list [.number]), (some "pattern", .string (some "a"))] :=
      ⟨by simp [KeysAreTexts], by simp [valuesOf], by simp [valuesOf], by simp [valuesOf]⟩
    exact ⟨by simp [KeysAreTexts], by simp [valuesOf],
      .inr ⟨[_], .cons hrendered .nil, by simp [valuesOf]⟩⟩
  · refine (read_object (Eq.substr (p := fun cs => Written _ cs []) (by decide) hwritten')).2 ?_
    exact .rule List.mem_cons_self List.mem_cons_self (.missing rfl)

end Config

end Descent
