import Descent.Config
import Descent.Proofs.Lexicon.Compiling

/-!
# Ways to build a lexicon

A lexicon can be written call by call, made of a list of rules, or read from a configuration. The
calls may come in any order: a call adds its rule behind the rules that there are, or it says
whether letter case counts, and then the last such call decides (`Lexicon.foldl_run`). So nothing
but the order of the rules and the last word on letter case is left of the calls, and the other two
ways lead to no other lexicons.
-/

namespace Descent

variable {κ : Type}

/-! ## Calls -/

/-- A call by which a lexicon is written. -/
inductive Call (κ : Type) where
  /-- one more rule, which makes tokens -/
  | token (pattern : String) (kind : κ)
  /-- one more rule, which skips -/
  | skip (pattern : String)
  /-- one more rule, which asks what to make -/
  | callback (pattern : String) (decide : String → Option (κ × String))
  /-- letter case says nothing, or says something again -/
  | caseInsensitive (yes : Bool)

namespace Call

/-- The lexicon after the call. -/
def run : Call κ → Lexicon κ → Lexicon κ
  | token pattern kind => Lexicon.token pattern kind
  | skip pattern => Lexicon.skip pattern
  | callback pattern decide => Lexicon.callback pattern decide
  | caseInsensitive yes => Lexicon.caseInsensitive yes

/-- The rule that the call adds. -/
def rule? : Call κ → Option (Rule κ)
  | token pattern kind => some ⟨pattern, .emit kind⟩
  | skip pattern => some ⟨pattern, .skip⟩
  | callback pattern decide => some ⟨pattern, .callback decide⟩
  | caseInsensitive _ => none

/-- What the call says about letter case. -/
def flag? : Call κ → Option Bool
  | caseInsensitive yes => some yes
  | _ => none

/-- A call adds its rule, or it decides about letter case. -/
theorem run_eq (call : Call κ) (l : Lexicon κ) :
    call.run l = ⟨l.rules ++ call.rule?.toList, call.flag?.getD l.ignoreCase⟩ := by
  cases call with
  | caseInsensitive => simp [run, rule?, flag?, Lexicon.caseInsensitive]
  | _ => rfl

end Call

namespace Lexicon

/-- The lexicon that some calls write. -/
def build (calls : List (Call κ)) : Lexicon κ :=
  calls.foldl (fun l call => call.run l) empty

/-- **What calls leave**: the rules in the order of the calls behind those that there were, and the
last word on letter case. -/
theorem foldl_run (calls : List (Call κ)) (l : Lexicon κ) :
    calls.foldl (fun l call => call.run l) l =
      ⟨l.rules ++ calls.filterMap Call.rule?,
        (calls.filterMap Call.flag?).getLastD l.ignoreCase⟩ := by
  induction calls generalizing l with
  | nil => simp
  | cons call calls ih =>
    rw [List.foldl_cons, ih, call.run_eq, List.append_assoc, List.filterMap_cons,
      List.filterMap_cons]
    cases call with
    | caseInsensitive yes => simp only [Call.rule?, Call.flag?, List.getLastD_cons]; rfl
    | _ => rfl

theorem build_eq (calls : List (Call κ)) :
    build calls =
      ⟨calls.filterMap Call.rule?, (calls.filterMap Call.flag?).getLastD false⟩ := by
  rw [build, foldl_run, empty, List.nil_append]

/-- Adding rules one by one leaves the rules in their order. -/
theorem foldl_rule (rules : List (Rule κ)) (l : Lexicon κ) :
    rules.foldl (fun l r => l.rule r.pattern r.action) l =
      ⟨l.rules ++ rules, l.ignoreCase⟩ := by
  induction rules generalizing l with
  | nil => simp
  | cons r rules ih => rw [List.foldl_cons, ih, rule, List.append_assoc, List.singleton_append]

theorem ofRules_eq (rules : List (Rule κ)) : ofRules rules = ⟨rules, false⟩ := by
  rw [ofRules, foldl_rule, empty, List.nil_append]

end Lexicon

/-! ## Configurations -/

namespace RuleConfig

/-- The call that adds the rule: one that makes tokens if the rule has a kind and is not marked. -/
def call (r : RuleConfig) : Call String :=
  match r.kind, r.skip with
  | some kind, false => .token r.pattern kind
  | some _, true => .skip r.pattern
  | none, _ => .skip r.pattern

theorem rule?_call (r : RuleConfig) : r.call.rule? = some r.toRule := by
  obtain ⟨pattern, kind, skip⟩ := r
  cases kind <;> cases skip <;> rfl

theorem flag?_call (r : RuleConfig) : r.call.flag? = none := by
  obtain ⟨pattern, kind, skip⟩ := r
  cases kind <;> cases skip <;> rfl

theorem filterMap_rule?_call (rules : List RuleConfig) :
    (rules.map call).filterMap Call.rule? = rules.map toRule := by
  rw [List.filterMap_map, ← List.filterMap_eq_map]
  exact List.filterMap_congr fun r _ => r.rule?_call

theorem filterMap_flag?_call (rules : List RuleConfig) :
    (rules.map call).filterMap Call.flag? = [] := by
  rw [List.filterMap_map]
  exact List.filterMap_eq_nil_iff.2 fun r _ => r.flag?_call

end RuleConfig

namespace Config

/-- The calls that write the configuration's lexicon, if letter case is decided about after the
first `n` rules. -/
def calls (c : Config) (n : Nat) : List (Call String) :=
  (c.rules.take n).map RuleConfig.call ++
    .caseInsensitive c.caseInsensitive :: (c.rules.drop n).map RuleConfig.call

/-- A configuration is written by the calls of its rules, wherever letter case is decided about. -/
theorem toLexicon_eq_build (c : Config) (n : Nat) : c.toLexicon = Lexicon.build (c.calls n) := by
  have hrules : (c.calls n).filterMap Call.rule? = c.rules.map RuleConfig.toRule := by
    simp only [calls, List.filterMap_append, List.filterMap_cons, Call.rule?,
      RuleConfig.filterMap_rule?_call, ← List.map_append, List.take_append_drop]
  have hflags : (c.calls n).filterMap Call.flag? = [c.caseInsensitive] := by
    simp only [calls, List.filterMap_append, List.filterMap_cons, Call.flag?,
      RuleConfig.filterMap_flag?_call, List.nil_append]
  rw [Lexicon.build_eq, hrules, hflags, toLexicon, Lexicon.ofRules_eq]
  rfl

end Config

/-- **All ways to build a lexicon agree.** Calls leave their rules in order and the last word on
letter case, as if the rules were collected first. A configuration is written by one call for each
rule. Any lexicon is refused if it has no rules, and else for its first bad rule; the lexer of one
that is not refused has its rules in order, each compiled, each with its own action. A
configuration is refused for what its lexicon is refused for. -/
theorem Lexicon.ways_agree (κ : Type) :
    (∀ calls : List (Call κ),
      let rules := calls.filterMap Call.rule?
      let flag := (calls.filterMap Call.flag?).getLastD false
      (build calls).rules = rules ∧ (build calls).ignoreCase = flag ∧
        build calls = (ofRules rules).caseInsensitive flag) ∧
    (∀ (c : Config) (n : Nat), c.toLexicon = build (c.calls n)) ∧
    (∀ l : Lexicon κ,
      (l.compile = .error .empty ↔ l.rules = []) ∧
      (∀ index pattern e, l.compile = .error (.invalidPattern index pattern e) ↔
        ∃ r, Rule.FirstBad l.ignoreCase l.rules index r e ∧ r.pattern = pattern) ∧
      (∀ lexer, l.compile = .ok lexer ↔
        l.rules ≠ [] ∧ List.Forall₂ (Rule.CompilesTo l.ignoreCase) l.rules lexer.rules) ∧
      ((∃ lexer, l.compile = .ok lexer) ↔
        l.rules ≠ [] ∧ ∀ r ∈ l.rules, ∃ p, Pattern.compile l.ignoreCase r.pattern = .ok p)) ∧
    ∀ c : Config,
      (∀ lexer, c.compile = .ok lexer ↔ c.toLexicon.compile = .ok lexer) ∧
      ∀ e, c.compile = .error e ↔ ∃ d, c.toLexicon.compile = .error d ∧ .lexicon d = e := by
  refine ⟨?calls, Config.toLexicon_eq_build, ?compile, ?config⟩
  case calls =>
    intro calls rules flag
    have hbuild : build calls = ⟨rules, flag⟩ := build_eq calls
    rw [hbuild, ofRules_eq]
    exact ⟨rfl, rfl, rfl⟩
  case compile =>
    intro l
    exact ⟨compile_eq_empty_iff, fun _ _ _ => compile_eq_invalidPattern_iff,
      fun _ => compile_eq_ok_iff, exists_compile_eq_ok_iff⟩
  case config =>
    intro c
    exact ⟨fun _ => mapError_eq_ok_iff, fun _ => mapError_eq_error_iff⟩

end Descent
