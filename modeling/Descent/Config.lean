import Descent.Json.Reader
import Descent.Json.Writer
import Descent.Lexer

/-!
# Configurations

A configuration is a lexicon that can be written to a document and read back. It has no callbacks,
and the kinds of its tokens are texts. A rule makes tokens if it has a kind and is not marked to be
skipped.

In a document a record is an object, whose members may come in any order, or a list of its fields in
order. Members that say nothing may be left out, and members with other names are not looked at.
-/

namespace Descent

/-- A rule of a configuration. -/
structure RuleConfig where
  /-- the pattern, as written -/
  pattern : String
  /-- the kind of the tokens -/
  kind : Option String
  /-- is what the pattern matches skipped all the same? -/
  skip : Bool
deriving DecidableEq, Repr

/-- A lexicon that can be written down. -/
structure Config where
  /-- does letter case say nothing? -/
  caseInsensitive : Bool
  /-- the rules, the most preferred first -/
  rules : List RuleConfig
deriving DecidableEq, Repr

namespace RuleConfig

/-- A rule that makes tokens. -/
def token (pattern kind : String) : RuleConfig := ⟨pattern, some kind, false⟩

/-- A rule that skips. -/
def skipping (pattern : String) : RuleConfig := ⟨pattern, none, true⟩

/-- What to do with what the pattern matches. -/
def action (r : RuleConfig) : Action String :=
  match r.kind, r.skip with
  | some kind, false => .emit kind
  | _, _ => .skip

/-- The rule of a lexicon. -/
def toRule (r : RuleConfig) : Rule String := ⟨r.pattern, r.action⟩

/-- All that a rule holds, field by field. -/
def listing (r : RuleConfig) : String :=
  let kind := match r.kind with
    | none => "None"
    | some k => "Some(" ++ Text.quoted k ++ ")"
  "RuleConfig \x7b pattern: " ++ Text.quoted r.pattern ++ ", kind: " ++ kind ++ ", skip: " ++
    toString r.skip ++ " \x7d"

/-! ## Rules in documents -/

/-- The text of a rule in a document. What says nothing is left out. -/
def toJson (r : RuleConfig) : String :=
  let kind := match r.kind with
    | none => []
    | some k => [("kind", Json.writeString k)]
  let skip := if r.skip then [("skip", Json.writeBool true)] else []
  Json.writeObject (("pattern", Json.writeString r.pattern) :: kind ++ skip)

/-- The members of a rule's object that have been read. -/
structure Members where
  /-- the pattern -/
  pattern : Option String
  /-- the kind, which may be none -/
  kind : Option (Option String)
  /-- the mark -/
  skip : Option Bool

open Json.Reader in
/-- One more member of a rule's object. -/
def member (key : String) (m : Members) : Json.Reader Members :=
  match key with
  | "pattern" => return { m with pattern := ← field "pattern" m.pattern stringValue }
  | "kind" => return { m with kind := ← field "kind" m.kind optionalStringValue }
  | "skip" => return { m with skip := ← field "skip" m.skip boolValue }
  | _ => do
    unknownField
    return m

open Json.Reader in
/-- The rule that an object describes. -/
def ofMembers : Json.Reader RuleConfig := do
  let m ← members member (← budget) true ⟨none, none, none⟩
  match m.pattern with
  | none => refuse (.missingField "pattern")
  | some pattern => return ⟨pattern, m.kind.getD none, m.skip.getD false⟩

open Json.Reader in
/-- The rule that a list describes. -/
def ofElements : Json.Reader RuleConfig := do
  match ← element? true stringValue with
  | none => refuse (.invalidLength 0 "struct RuleConfig with 3 elements")
  | some pattern =>
    match ← element? false optionalStringValue with
    | none => return ⟨pattern, none, false⟩
    | some kind => return ⟨pattern, kind, (← element? false boolValue).getD false⟩

/-- A rule in a document. -/
def value : Json.Reader RuleConfig :=
  Json.Reader.recordValue "struct RuleConfig" ofElements ofMembers

end RuleConfig

namespace Config

/-- The configuration without rules. -/
def empty : Config := ⟨false, []⟩

/-- The lexicon that is written down. -/
def toLexicon (c : Config) : Lexicon String :=
  (Lexicon.ofRules (c.rules.map RuleConfig.toRule)).caseInsensitive c.caseInsensitive

/-- All that a configuration holds, field by field. -/
def listing (c : Config) : String :=
  "LexiconConfig \x7b case_insensitive: " ++ toString c.caseInsensitive ++ ", rules: [" ++
    ", ".intercalate (c.rules.map RuleConfig.listing) ++ "] \x7d"

/-! ## Configurations in documents -/

/-- The text of a configuration's document. -/
def toJson (c : Config) : String :=
  Json.writeObject
    [("case_insensitive", Json.writeBool c.caseInsensitive),
     ("rules", Json.writeList (c.rules.map RuleConfig.toJson))]

/-- The members of a configuration's object that have been read. -/
structure Members where
  /-- what is said about letter case -/
  caseInsensitive : Option Bool
  /-- the rules -/
  rules : Option (List RuleConfig)

open Json.Reader in
/-- One more member of a configuration's object. -/
def member (key : String) (m : Members) : Json.Reader Members :=
  match key with
  | "case_insensitive" =>
    return { m with caseInsensitive := ← field "case_insensitive" m.caseInsensitive boolValue }
  | "rules" => return { m with rules := ← field "rules" m.rules (listValue RuleConfig.value) }
  | _ => do
    unknownField
    return m

open Json.Reader in
/-- The configuration that an object describes. -/
def ofMembers : Json.Reader Config := do
  let m ← members member (← budget) true ⟨none, none⟩
  return ⟨m.caseInsensitive.getD false, m.rules.getD []⟩

open Json.Reader in
/-- The configuration that a list describes. -/
def ofElements : Json.Reader Config := do
  match ← element? true boolValue with
  | none => return empty
  | some caseInsensitive =>
    return ⟨caseInsensitive, (← element? false (listValue RuleConfig.value)).getD []⟩

/-- A configuration in a document. -/
def value : Json.Reader Config :=
  Json.Reader.recordValue "struct LexiconConfig" ofElements ofMembers

/-- Read a configuration from a text. -/
def ofJson (text : String) : Except Json.Error Config :=
  Json.Reader.document value .memory (text.toList.map .char)

/-- Read a configuration from the bytes of a file. -/
def ofBytes (bytes : List UInt8) : Except Json.Error Config :=
  Json.Reader.document value .file (Text.Utf8.decode bytes)

end Config

/-- Why there is no configuration, or no lexer for it. -/
inductive ConfigError where
  /-- the file could not be opened -/
  | unopened (reason : String)
  /-- the document is refused -/
  | document (e : Json.Error)
  /-- the lexicon makes no lexer -/
  | lexicon (e : LexiconError)
deriving DecidableEq, Repr

namespace ConfigError

/-- The error in words. -/
def message : ConfigError → String
  | unopened reason => "Failed to read lexicon config: " ++ reason
  | document e => "Failed to parse lexicon config: " ++ e.message
  | lexicon e => "Invalid lexicon: " ++ e.message

end ConfigError

/-- What a path leads to. -/
inductive Storage where
  /-- nothing -/
  | missing
  /-- a directory, which can be opened and not be read -/
  | directory
  /-- a file with its bytes -/
  | file (bytes : List UInt8)

namespace Config

/-- Read a configuration from a text. -/
def read (text : String) : Except ConfigError Config :=
  (ofJson text).mapError .document

/-- Read a configuration from what a path leads to. -/
def load : Storage → Except ConfigError Config
  | .missing => .error (.unopened "No such file or directory (os error 2)")
  | .directory => .error (.document ⟨.unreadable "Is a directory (os error 21)", none⟩)
  | .file bytes => (ofBytes bytes).mapError .document

/-- The lexer of a configuration. -/
def compile (c : Config) : Except ConfigError (Lexer String) :=
  c.toLexicon.compile.mapError .lexicon

end Config

end Descent
