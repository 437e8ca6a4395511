import Descent.Config
import Descent.Proofs.Json.RoundTrip
import Mathlib.Data.List.Forall2

/-!
# Configurations survive being written

What is written for a configuration is read as that configuration (`Config.read_toJson`), whatever
its patterns and its kinds are made of. A rule that has no kind, or that is not to be skipped, does
not say so in a document; what is then read is what the rule has (`RuleConfig.fits_value`).
-/

namespace Descent

open Json Json.Reader

namespace RuleConfig

variable {m : Members}

theorem reads_member_pattern (hm : m.pattern = none) (pattern : String) (rest : List Char) :
    Reads (member "pattern" m) (':' :: ((writeString pattern).toList ++ rest))
      { m with pattern := some pattern } rest := by
  rw [member, hm]
  exact ((fits_string pattern).reads_field "pattern" rest).bind (reads_pure _)

theorem reads_member_kind (hm : m.kind = none) (kind : String) (rest : List Char) :
    Reads (member "kind" m) (':' :: ((writeString kind).toList ++ rest))
      { m with kind := some (some kind) } rest := by
  rw [member, hm]
  exact ((fits_optionalString kind).reads_field "kind" rest).bind (reads_pure _)

theorem reads_member_skip (hm : m.skip = none) (skip : Bool) (rest : List Char) :
    Reads (member "skip" m) (':' :: ((writeBool skip).toList ++ rest))
      { m with skip := some skip } rest := by
  rw [member, hm]
  exact ((fits_bool skip).reads_field "skip" rest).bind (reads_pure _)

/-- **A rule that has been written is read back.** What is left out is what is meant where nothing
is said. -/
theorem fits_value (r : RuleConfig) : Fits value r.toJson r := by
  obtain ⟨pattern, kind, skip⟩ := r
  have hpattern := reads_member_pattern (m := ⟨none, none, none⟩) rfl pattern
  cases kind with
  | none =>
    cases skip with
    | false => exact fits_record (.cons hpattern (.nil _)) fun _ => reads_pure _
    | true =>
      exact fits_record (.cons hpattern (.cons (reads_member_skip rfl true) (.nil _)))
        fun _ => reads_pure _
  | some kind =>
    have hkind := reads_member_kind (m := ⟨some pattern, none, none⟩) rfl kind
    cases skip with
    | false => exact fits_record (.cons hpattern (.cons hkind (.nil _))) fun _ => reads_pure _
    | true =>
      exact fits_record (.cons hpattern (.cons hkind (.cons (reads_member_skip rfl true) (.nil _))))
        fun _ => reads_pure _

end RuleConfig

namespace Config

variable {m : Members}

theorem reads_member_caseInsensitive (hm : m.caseInsensitive = none) (b : Bool)
    (rest : List Char) :
    Reads (member "case_insensitive" m) (':' :: ((writeBool b).toList ++ rest))
      { m with caseInsensitive := some b } rest := by
  rw [member, hm]
  exact ((fits_bool b).reads_field "case_insensitive" rest).bind (reads_pure _)

theorem reads_member_rules (hm : m.rules = none) (rules : List RuleConfig) (rest : List Char) :
    Reads (member "rules" m)
      (':' :: ((writeList (rules.map RuleConfig.toJson)).toList ++ rest))
      { m with rules := some rules } rest := by
  have hrules : List.Forall₂ (Fits RuleConfig.value) (rules.map RuleConfig.toJson) rules := by
    rw [List.forall₂_map_left_iff, List.forall₂_same]
    exact fun r _ => r.fits_value
  rw [member, hm]
  exact ((fits_list hrules).reads_field "rules" rest).bind (reads_pure _)

theorem fits_value (c : Config) : Fits value c.toJson c :=
  fits_record
    (.cons (reads_member_caseInsensitive rfl c.caseInsensitive)
      (.cons (reads_member_rules rfl c.rules) (.nil _)))
    fun _ => reads_pure _

/-- **A configuration that has been written is read back.** -/
theorem read_toJson (c : Config) : read c.toJson = .ok c := by
  have h : ofJson c.toJson = .ok c := c.fits_value.document_eq .memory
  rw [read, h]
  rfl

end Config

end Descent
