import Descent.Config
import Descent.Proofs.Json.Meaning

/-!
# What documents mean as configurations

A document's value either means a configuration or it means none (`Config.meaning?`): an object
means what its members mean, one after the other, and a list what its elements mean in order. To
read a document is to find out what its value means (`Config.toOption_read`), so which of the many
ways to write the value the document takes makes no difference.
-/

namespace Descent

open Json Json.Reader

namespace RuleConfig

/-- What a member of a rule's object makes of what has been read. -/
def memberMeaning? (key : String) (v : Value) (m : Members) : Option Members :=
  match key with
  | "pattern" => (field? m.pattern v.text?).map fun pattern => { m with pattern := pattern }
  | "kind" => (field? m.kind v.optionalText?).map fun kind => { m with kind := kind }
  | "skip" => (field? m.skip v.bool?).map fun skip => { m with skip := skip }
  | _ => some m

/-- A member of a rule with another key is passed over. -/
theorem memberMeaning?_of_ne {key : String} (hpattern : key ≠ "pattern") (hkind : key ≠ "kind")
    (hskip : key ≠ "skip") (v : Value) (m : Members) : memberMeaning? key v m = some m := by
  unfold memberMeaning?
  split <;> first | contradiction | rfl

/-- The rule of the members that have been read, which must have a pattern. -/
def Members.toRule? (m : Members) : Option RuleConfig :=
  m.pattern.map fun pattern => ⟨pattern, m.kind.getD none, m.skip.getD false⟩

/-- What the members of an object mean as a rule. -/
def membersMeaning? (ms : List Member) : Option RuleConfig :=
  (members? memberMeaning? ms ⟨none, none, none⟩).bind Members.toRule?

/-- What the elements of a list mean as a rule. -/
def fields : Fields RuleConfig := do
  match ← nextField? Value.text? with
  | none => failure
  | some pattern =>
    match ← nextField? Value.optionalText? with
    | none => return ⟨pattern, none, false⟩
    | some kind => return ⟨pattern, kind, (← nextField? Value.bool?).getD false⟩

/-- What a value means as a rule. -/
def meaning? : Value → Option RuleConfig := Value.record? fields.of? membersMeaning?

/-- The members of a rule are read as what they mean. -/
theorem meansMember_member : MeansMember member memberMeaning? := by
  intro key v m i i₁ input rest hcolon hi h hends
  unfold member
  split
  · exact (means_stringValue.field "pattern" m.pattern hcolon hi h hends).map
  · exact (means_optionalStringValue.field "kind" m.kind hcolon hi h hends).map
  · exact (means_boolValue.field "skip" m.skip hcolon hi h hends).map
  · rename_i hpattern hkind hskip
    rw [memberMeaning?_of_ne hpattern hkind hskip]
    exact (reads_unknownField hcolon hi h hends).yields (reads_pure m)

/-- The fields of a rule in order are read as what they mean. -/
theorem meansFields_ofElements : MeansFields true ofElements fields := by
  refine means_stringValue.element?.bind fun pattern => ?_
  cases pattern with
  | none => exact meansFields_refuse _
  | some pattern =>
    refine means_optionalStringValue.element?.bind fun kind => ?_
    cases kind with
    | none => exact meansFields_pure _
    | some kind => exact means_boolValue.element?.bind fun skip => meansFields_pure _

/-- An object with the members of a rule is read as what they mean together. -/
theorem yields_ofMembers {ms : List Member} {input rest : List Char}
    (h : Written (.members ms) input rest) :
    Yields ofMembers input (membersMeaning? ms) ('}' :: rest) := by
  refine (meansMember_member.yields_members_budget h).bind fun m _ => ?_
  rw [Members.toRule?]
  cases m.pattern with
  | none => exact (refuses_refuse _).fails _
  | some pattern => exact reads_pure _

theorem means_value : Means value meaning? :=
  means_recordValue meansFields_ofElements.enclosed yields_ofMembers

end RuleConfig

namespace Config

/-- What a member of a configuration's object makes of what has been read. -/
def memberMeaning? (key : String) (v : Value) (m : Members) : Option Members :=
  match key with
  | "case_insensitive" =>
    (field? m.caseInsensitive v.bool?).map fun b => { m with caseInsensitive := b }
  | "rules" =>
    (field? m.rules (v.list? RuleConfig.meaning?)).map fun rules => { m with rules := rules }
  | _ => some m

/-- A member of a configuration with another key is passed over. -/
theorem memberMeaning?_of_ne {key : String} (hcase : key ≠ "case_insensitive")
    (hrules : key ≠ "rules") (v : Value) (m : Members) : memberMeaning? key v m = some m := by
  unfold memberMeaning?
  split <;> first | contradiction | rfl

/-- The configuration of the members that have been read. -/
def Members.toConfig (m : Members) : Config := ⟨m.caseInsensitive.getD false, m.rules.getD []⟩

/-- What the members of an object mean as a configuration. -/
def membersMeaning? (ms : List Member) : Option Config :=
  (members? memberMeaning? ms ⟨none, none⟩).map Members.toConfig

/-- What the elements of a list mean as a configuration. -/
def fields : Fields Config := do
  match ← nextField? Value.bool? with
  | none => return empty
  | some caseInsensitive =>
    return ⟨caseInsensitive, (← nextField? (Value.list? RuleConfig.meaning?)).getD []⟩

/-- What a value means as a configuration. -/
def meaning? : Value → Option Config := Value.record? fields.of? membersMeaning?

/-- The members of a configuration are read as what they mean. -/
theorem meansMember_member : MeansMember member memberMeaning? := by
  intro key v m i i₁ input rest hcolon hi h hends
  have hrules : Means (listValue RuleConfig.value) (Value.list? RuleConfig.meaning?) :=
    means_listValue RuleConfig.means_value
  unfold member
  split
  · exact (means_boolValue.field "case_insensitive" m.caseInsensitive hcolon hi h hends).map
  · exact (hrules.field "rules" m.rules hcolon hi h hends).map
  · rename_i hcase hrules
    rw [memberMeaning?_of_ne hcase hrules]
    exact (reads_unknownField hcolon hi h hends).yields (reads_pure m)

/-- The fields of a configuration in order are read as what they mean. -/
theorem meansFields_ofElements : MeansFields true ofElements fields := by
  refine means_boolValue.element?.bind fun caseInsensitive => ?_
  cases caseInsensitive with
  | none => exact meansFields_pure _
  | some caseInsensitive =>
    exact (means_listValue RuleConfig.means_value).element?.bind fun rules => meansFields_pure _

/-- An object with the members of a configuration is read as what they mean together. -/
theorem yields_ofMembers {ms : List Member} {input rest : List Char}
    (h : Written (.members ms) input rest) :
    Yields ofMembers input (membersMeaning? ms) ('}' :: rest) :=
  (meansMember_member.yields_members_budget h).map

theorem means_value : Means value meaning? :=
  means_recordValue meansFields_ofElements.enclosed yields_ofMembers

/-- **To read a document is to find out what its value means.** -/
theorem toOption_ofJson {v : Value} {text : List Char} (h : Written (.element v) text []) :
    (ofJson (String.ofList text)).toOption = meaning? v := by
  have hdocument := means_value.document h .memory
  rwa [ofJson, String.toList_ofList]

end Config

end Descent
