import Descent.Text.Quoted

/-!
# Lexicons

A lexicon is a list of rules, each a pattern and what to do with the text that the pattern matches.
The order of the rules decides between them: where several match, the first one is taken, even if a
later one would match more.

A lexicon is written rule by rule (`Lexicon.token`, `Lexicon.skip`, `Lexicon.callback`) or made of a
list of rules (`Lexicon.ofRules`), and letter case can be made to say nothing in all of them.
-/

namespace Descent

/-- What to do with a text that a rule matched. -/
inductive Action (κ : Type) where
  /-- make a token of a kind, with the text as its value -/
  | emit (kind : κ)
  /-- go on behind the text -/
  | skip
  /-- ask for the kind and the value of a token, or for none -/
  | callback (decide : String → Option (κ × String))

/-- A pattern and what to do with what it matches. -/
structure Rule (κ : Type) where
  /-- the pattern, as written -/
  pattern : String
  /-- what to do with what it matches -/
  action : Action κ

/-- A list of rules. -/
structure Lexicon (κ : Type) where
  /-- the rules, the most preferred first -/
  rules : List (Rule κ)
  /-- does letter case say nothing? -/
  ignoreCase : Bool

variable {κ : Type}

namespace Action

/-- What the action yields for a text: a kind and a value, or nothing. -/
def apply (text : String) : Action κ → Option (κ × String)
  | emit kind => some (kind, text)
  | skip => none
  | callback decide => decide text

/-- Is the text skipped for sure? -/
def isSkip : Action κ → Bool
  | skip => true
  | _ => false

/-- The action by name. -/
def listing (showKind : κ → String) : Action κ → String
  | emit kind => "Emit(" ++ showKind kind ++ ")"
  | skip => "Skip"
  | callback _ => "Callback(..)"

end Action

namespace Lexicon

/-- The lexicon without rules. -/
def empty : Lexicon κ := ⟨[], false⟩

/-- The lexicon with one more rule, the least preferred. -/
def rule (pattern : String) (action : Action κ) (l : Lexicon κ) : Lexicon κ :=
  { l with rules := l.rules ++ [⟨pattern, action⟩] }

/-- The lexicon with a rule that makes tokens. -/
def token (pattern : String) (kind : κ) (l : Lexicon κ) : Lexicon κ :=
  l.rule pattern (.emit kind)

/-- The lexicon with a rule that skips. -/
def skip (pattern : String) (l : Lexicon κ) : Lexicon κ :=
  l.rule pattern .skip

/-- The lexicon with a rule that asks what to make. -/
def callback (pattern : String) (decide : String → Option (κ × String)) (l : Lexicon κ) :
    Lexicon κ :=
  l.rule pattern (.callback decide)

/-- The lexicon in which letter case says nothing, or says something again. -/
def caseInsensitive (yes : Bool) (l : Lexicon κ) : Lexicon κ :=
  { l with ignoreCase := yes }

/-- The lexicon of some rules. -/
def ofRules (rules : List (Rule κ)) : Lexicon κ :=
  rules.foldl (fun l r => l.rule r.pattern r.action) empty

/-- How many rules there are. -/
def size (l : Lexicon κ) : Nat := l.rules.length

/-- Are there no rules? -/
def isEmpty (l : Lexicon κ) : Bool := l.rules.isEmpty

/-- A rule, field by field. -/
def ruleListing (showKind : κ → String) (r : Rule κ) : String :=
  "Rule \x7b pattern: " ++ Text.quoted r.pattern ++ ", action: " ++ r.action.listing showKind ++
    " \x7d"

/-- All that a lexicon holds, field by field. -/
def listing (showKind : κ → String) (l : Lexicon κ) : String :=
  "Lexicon \x7b rules: [" ++ ", ".intercalate (l.rules.map (ruleListing showKind)) ++
    "], case_insensitive: " ++ toString l.ignoreCase ++ " \x7d"

end Lexicon

/-! ## Stock callbacks -/

namespace Callback

/-- A token with the text in upper case, as far as ASCII goes. -/
def upper (kind : κ) (text : String) : Option (κ × String) :=
  some (kind, text.map Char.toUpper)

/-- A token that says nothing. -/
def blank (kind : κ) (_ : String) : Option (κ × String) := some (kind, "")

/-- A token with the text backwards. -/
def reverse (kind : κ) (text : String) : Option (κ × String) :=
  some (kind, String.ofList text.toList.reverse)

/-- No token. -/
def drop (_ : String) : Option (κ × String) := none

/-- What a table says about the text, or a token with the text where it says nothing. -/
def table (entries : List (String × Option (κ × String))) (kind : κ) (text : String) :
    Option (κ × String) :=
  match entries.lookup text with
  | some answer => answer
  | none => some (kind, text)

end Callback

end Descent
