import Descent.Unicode.Packed
import Descent.Unicode.Classes
import Descent.Unicode.CategoryTable
import Descent.Unicode.ScriptTable
import Descent.Unicode.BinaryTable

/-!
# Properties of characters

A property is asked for by a name (`\p{Greek}`) or by a name and a value (`\p{sc=Greek}`). A bare
name may be that of a property that holds or does not hold, of a general category or of a script.
Names are compared loosely: letter case, blanks, `_`, `-` and a leading `is` say nothing.

`Property.lookup` answers a question with the set of the characters that have the property, or says
whether it was the property or the value that nobody knows.

The tables of four properties are left out: those of `Age`, `Grapheme_Cluster_Break`, `Word_Break`
and `Sentence_Break`. They are known by their names, but all their values are answered like values
that nobody knows, and a pattern that asks for one of them, such as `\p{age=6.0}`, is refused.
-/

namespace Descent.Unicode

/-! ## Loose names -/

/-- A name without what says nothing: blanks, `_`, `-`, a leading `is`, letter case, and characters
outside ASCII. The name `isc` is kept apart from `c`. -/
def looseName (name : String) : String :=
  let cs := name.toList
  let hasIs := match cs with
    | i :: s :: _ => (i == 'i' || i == 'I') && (s == 's' || s == 'S')
    | _ => false
  let cs := if hasIs then cs.drop 2 else cs
  let cs := cs.filter fun c => c.toNat < 0x80 && !(c == ' ' || c == '_' || c == '-')
  let cs := cs.map Char.toLower
  String.ofList (if hasIs && cs == ['c'] then ['i', 's', 'c'] else cs)

/-- The entry of a table that lists the loose name among its names. -/
def findName {α : Type} (table : List (List String × α)) (name : String) : Option α :=
  (table.find? fun entry => entry.1.contains name).map Prod.snd

/-! ## General categories -/

/-- The runs of one general category, read. -/
def categoryRuns : List (Nat × List Char) := Packed.words categoryTable

/-- The characters of some categories, given by their two-letter codes. -/
def ofCategories (codes : List String) : CharSet :=
  Packed.ofRuns categoryRuns fun label => codes.contains (String.ofList label)

/-- The loose names of the general categories and of their groups, and the codes each stands
for. -/
def categoryNames : List (List String × List String) :=
  [(["l", "letter"], ["Lu", "Ll", "Lt", "Lm", "Lo"]),
   (["lc", "casedletter"], ["Lu", "Ll", "Lt"]),
   (["lu", "uppercaseletter"], ["Lu"]),
   (["ll", "lowercaseletter"], ["Ll"]),
   (["lt", "titlecaseletter"], ["Lt"]),
   (["lm", "modifierletter"], ["Lm"]),
   (["lo", "otherletter"], ["Lo"]),
   (["m", "mark", "combiningmark"], ["Mn", "Mc", "Me"]),
   (["mn", "nonspacingmark"], ["Mn"]),
   (["mc", "spacingmark"], ["Mc"]),
   (["me", "enclosingmark"], ["Me"]),
   (["n", "number"], ["Nd", "Nl", "No"]),
   (["nd", "decimalnumber", "digit"], ["Nd"]),
   (["nl", "letternumber"], ["Nl"]),
   (["no", "othernumber"], ["No"]),
   (["p", "punctuation", "punct"], ["Pc", "Pd", "Ps", "Pe", "Pi", "Pf", "Po"]),
   (["pc", "connectorpunctuation"], ["Pc"]),
   (["pd", "dashpunctuation"], ["Pd"]),
   (["ps", "openpunctuation"], ["Ps"]),
   (["pe", "closepunctuation"], ["Pe"]),
   (["pi", "initialpunctuation"], ["Pi"]),
   (["pf", "finalpunctuation"], ["Pf"]),
   (["po", "otherpunctuation"], ["Po"]),
   (["s", "symbol"], ["Sm", "Sc", "Sk", "So"]),
   (["sm", "mathsymbol"], ["Sm"]),
   (["sc", "currencysymbol"], ["Sc"]),
   (["sk", "modifiersymbol"], ["Sk"]),
   (["so", "othersymbol"], ["So"]),
   (["z", "separator"], ["Zs", "Zl", "Zp"]),
   (["zs", "spaceseparator"], ["Zs"]),
   (["zl", "lineseparator"], ["Zl"]),
   (["zp", "paragraphseparator"], ["Zp"]),
   (["c", "other"], ["Cc", "Cf", "Co", "Cn"]),
   (["cc", "control", "cntrl"], ["Cc"]),
   (["cf", "format"], ["Cf"]),
   (["co", "privateuse"], ["Co"]),
   (["cn", "unassigned"], ["Cn"])]

/-- The characters of a general category or of a group of them. -/
def category? (name : String) : Option CharSet :=
  if name = "any" then some CharSet.all
  else if name = "assigned" then some (ofCategories ["Cn"]).complement
  else if name = "ascii" then some (CharSet.range '\x00' '\x7f')
  else (findName categoryNames name).map ofCategories

/-! ## Scripts -/

/-- The runs of one script, read. -/
def scriptRuns : List (Nat × List Char) := Packed.words scriptTable

/-- The runs that share a list of scripts, read. -/
def scriptExtensionRuns : List (Nat × List Char) := Packed.words scriptExtensionTable

/-- The four-letter code of a script. The code points of no script have no code to ask for. -/
def scriptCode? (name : String) : Option String :=
  ((scriptNames.find? fun entry => entry.2.contains name).map Prod.fst).filter (· != "Zzzz")

/-- The characters of a script, by its code. -/
def ofScript (code : String) : CharSet :=
  Packed.ofRuns scriptRuns (· == code.toList)

/-- Is the code one of the four-letter codes that stand one after another? -/
def listsCode (code : List Char) : List Char → Bool
  | a :: b :: c :: d :: rest => [a, b, c, d] == code || listsCode code rest
  | _ => false

/-- The characters that a script uses: those with a list of scripts that names it, and its own
characters without a list. -/
def ofScriptExtension (code : String) : CharSet :=
  ((ofScript code).diff (Packed.ofRuns scriptExtensionRuns (!·.isEmpty))).union
    (Packed.ofRuns scriptExtensionRuns (listsCode code.toList))

/-! ## Properties that hold or do not hold -/

/-- The characters for which a property holds. -/
def binary? (name : String) : Option CharSet :=
  if name = "whitespace" ∨ name = "wspace" ∨ name = "space" then some whiteSpace
  else (findName binaryTable name).map Packed.ofDistances

/-! ## Questions -/

/-- A question for the characters with a property. -/
inductive Property where
  /-- by a name that says it all -/
  | named (name : String)
  /-- by the name of a property and one of its values -/
  | valued (name value : String)
deriving DecidableEq, Repr

/-- Why a question has no answer. -/
inductive PropertyError where
  /-- nobody knows the property -/
  | unknownProperty
  /-- the property is known and the value is not -/
  | unknownValue
deriving DecidableEq, Repr

/-- The loose names of the properties none of whose values can be asked for. Among them are the four
whose tables are left out. -/
def otherProperties : List String :=
  ["age", "bidiclass", "bc", "bidimirroringglyph", "bmg", "bidipairedbracket", "bpb",
   "bidipairedbrackettype", "bpt", "block", "blk", "canonicalcombiningclass", "ccc", "casefolding",
   "cf", "compositionexclusion", "ce", "decompositionmapping", "dm", "decompositiontype", "dt",
   "eastasianwidth", "ea", "equivalentunifiedideograph", "equideo", "expandsonnfc", "xonfc",
   "expandsonnfd", "xonfd", "expandsonnfkc", "xonfkc", "expandsonnfkd", "xonfkd", "fcnfkcclosure",
   "fcnfkc", "fullcompositionexclusion", "compex", "graphemeclusterbreak", "gcb", "graphemelink",
   "grlink", "hangulsyllabletype", "hst", "hyphen", "indicconjunctbreak", "incb",
   "indicpositionalcategory", "inpc", "indicsyllabiccategory", "insc", "isc", "ocomment",
   "jamoshortname", "jsn", "joininggroup", "jg", "joiningtype", "jt", "linebreak", "lb",
   "lowercasemapping", "lc", "name", "na", "namealias", "nfcquickcheck", "nfcqc", "nfdquickcheck",
   "nfdqc", "nfkccasefold", "nfkccf", "nfkcquickcheck", "nfkcqc", "nfkcsimplecasefold", "nfkcscf",
   "nfkdquickcheck", "nfkdqc", "numerictype", "nt", "numericvalue", "nv", "otheralphabetic",
   "oalpha", "otherdefaultignorablecodepoint", "odi", "othergraphemeextend", "ogrext",
   "otheridcontinue", "oidc", "otheridstart", "oids", "otherlowercase", "olower", "othermath",
   "omath", "otheruppercase", "oupper", "prependedconcatenationmark", "pcm", "sentencebreak", "sb",
   "simplecasefolding", "scf", "sfc", "simplelowercasemapping", "slc", "simpletitlecasemapping",
   "stc", "simpleuppercasemapping", "suc", "titlecasemapping", "tc", "unicode1name", "na1",
   "uppercasemapping", "uc", "verticalorientation", "vo", "wordbreak", "wb"]

/-- The value that was asked for, or the answer that nobody knows it. -/
def orUnknownValue : Option CharSet → Except PropertyError CharSet
  | some s => .ok s
  | none => .error .unknownValue

namespace Property

/-- The characters with the property. -/
def lookup : Property → Except PropertyError CharSet
  | named name =>
    let name := looseName name
    match binary? name <|> category? name with
    | some s => .ok s
    | none =>
      if name = "cs" ∨ name = "surrogate" ∨ name = "zzzz" ∨ name = "unknown" then
        .error .unknownValue
      else match scriptCode? name with
        | some code => .ok (ofScript code)
        | none => .error .unknownProperty
  | valued name value =>
    let name := looseName name
    let value := looseName value
    if name = "generalcategory" ∨ name = "gc" then
      orUnknownValue (category? value)
    else if name = "script" ∨ name = "sc" then
      orUnknownValue ((scriptCode? value).map ofScript)
    else if name = "scriptextensions" ∨ name = "scx" then
      orUnknownValue ((scriptCode? value).map ofScriptExtension)
    else if otherProperties.contains name ∨ (binary? name).isSome then
      .error .unknownValue
    else .error .unknownProperty

end Property

/-! ## The classes that the library itself asks for -/

/-- The letters and what goes with them. -/
def alphabetic : CharSet := Packed.ofDistances alphabeticTable

/-- Letters and numbers. -/
def alphanumeric : CharSet := alphabetic.union (ofCategories ["Nd", "Nl", "No"])

/-- What words are made of: letters, marks, decimal digits, connectors and joiners. -/
def word : CharSet :=
  CharSet.unions
    [alphabetic, ofCategories ["Mn", "Mc", "Me", "Pc"], decimalDigit,
     CharSet.range '\u200c' '\u200d']

/-- The marks that extend the character before them. -/
def graphemeExtend : CharSet := Packed.ofDistances graphemeExtendTable

/-- What a printed text shows: all but controls, formats, unassigned code points and, the blank
apart, separators. -/
def printable : CharSet :=
  (ofCategories ["Cc", "Cf", "Cs", "Co", "Cn", "Zs", "Zl", "Zp"]).complement.union
    (CharSet.single ' ')

end Descent.Unicode
