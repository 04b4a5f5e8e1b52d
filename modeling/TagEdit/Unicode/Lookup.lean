import TagEdit.Unicode.Script
import TagEdit.Unicode.Age
import TagEdit.Unicode.Break

/-!
# Character sets by name

Resolves the names under which patterns refer to sets of characters. Names are
compared loosely: case, spaces, hyphens, underscores and a leading `is` do not
count. A name on its own is a binary property, else a general category, else a
script; a name with a value selects a general category, a script, an age or a
class of segments.
-/

namespace TagEdit.Unicode

/-- Why a name selects no set. -/
inductive LookupError where
  | unknownProperty
  | unknownValue
  deriving DecidableEq, Repr

namespace Lookup

/-- A name as it is compared. -/
def normalize (name : List Char) : String :=
  let fold (cs : List Char) : List Char :=
    (cs.filter fun c => c.toNat < 128 && c != ' ' && c != '_' && c != '-').map Char.toLower
  match name with
  | a :: b :: rest =>
    if a.toLower = 'i' ∧ b.toLower = 's' then
      if fold rest = ['c'] then "isc" else String.ofList (fold rest)
    else String.ofList (fold name)
  | _ => String.ofList (fold name)

/-- Names of categories and scripts that no character has. They select no set. -/
def vacantNames : List String :=
  ["cs", "surrogate", "hrkt", "katakanaorhiragana", "zzzz", "unknown"]

/-- The set of a name on its own. Three abbreviations of properties are categories here. -/
def find (name : List Char) : Except LookupError CharSet :=
  let n := normalize name
  let property := if n == "cf" || n == "sc" || n == "lc" then none else Property.named? n
  let known := property <|> Category.group? n <|> (Script.named? n).map Script.set
  match known with
  | some s => .ok s
  | none =>
    .error (if vacantNames.contains n then .unknownValue else .unknownProperty)

/-- Properties that are no set of their own. -/
def valuedProperties : List String :=
  ["age", "bc", "bidiclass", "bidimirroringglyph", "bidipairedbracket", "bidipairedbrackettype",
   "blk", "block", "bmg", "bpb", "bpt", "canonicalcombiningclass", "casefolding", "ccc", "ce",
   "cf", "changeswhennfkccasefolded", "cjkaccountingnumeric", "cjkcompatibilityvariant",
   "cjkiicore", "cjkirggsource", "cjkirghsource", "cjkirgjsource", "cjkirgkpsource",
   "cjkirgksource", "cjkirgmsource", "cjkirgssource", "cjkirgtsource", "cjkirguksource",
   "cjkirgusource", "cjkirgvsource", "cjkothernumeric", "cjkprimarynumeric", "cjkrsunicode",
   "compex", "compositionexclusion", "cwkcf", "decompositionmapping", "decompositiontype", "dm",
   "dt", "ea", "eastasianwidth", "equideo", "equivalentunifiedideograph", "expandsonnfc",
   "expandsonnfd", "expandsonnfkc", "expandsonnfkd", "fcnfkc", "fcnfkcclosure",
   "fullcompositionexclusion", "gcb", "graphemeclusterbreak", "hangulsyllabletype", "hst", "incb",
   "indicconjunctbreak", "indicpositionalcategory", "indicsyllabiccategory", "inpc", "insc", "isc",
   "jamoshortname", "jg", "joininggroup", "joiningtype", "jsn", "jt", "kaccountingnumeric",
   "kcompatibilityvariant", "kehcat", "kehcore", "kehdesc", "kehfunc", "kehfval", "kehhg",
   "kehifao", "kehjsesh", "kehnomirror", "kehnorotate", "kehunik", "kiicore", "kirggsource",
   "kirghsource", "kirgjsource", "kirgkpsource", "kirgksource", "kirgmsource", "kirgssource",
   "kirgtsource", "kirguksource", "kirgusource", "kirgvsource", "kothernumeric", "kprimarynumeric",
   "krsunicode", "lb", "lc", "linebreak", "lowercasemapping", "na", "na1", "name", "namealias",
   "nfcqc", "nfcquickcheck", "nfdqc", "nfdquickcheck", "nfkccasefold", "nfkccf", "nfkcqc",
   "nfkcquickcheck", "nfkcscf", "nfkcsimplecasefold", "nfkdqc", "nfkdquickcheck", "nt",
   "numerictype", "numericvalue", "nv", "ocomment", "sb", "scf", "sentencebreak", "sfc",
   "simplecasefolding", "simplelowercasemapping", "simpletitlecasemapping",
   "simpleuppercasemapping", "slc", "stc", "suc", "tc", "titlecasemapping", "uc", "unicode1name",
   "unicoderadicalstroke", "uppercasemapping", "urs", "verticalorientation", "vo", "wb",
   "wordbreak", "xonfc", "xonfd", "xonfkc", "xonfkd"]

/-- The set that a value of a property selects; `none` where the property selects no set. -/
def valued? (property : String) : Option (String → Option CharSet) :=
  match property with
  | "gc" | "generalcategory" => some Category.group?
  | "sc" | "script" => some fun v => (Script.named? v).map Script.set
  | "scx" | "scriptextensions" => some fun v => (Script.named? v).map Script.extendedSet
  | "age" => some Age.upTo?
  | "gcb" | "graphemeclusterbreak" => some Break.cluster?
  | "wb" | "wordbreak" => some Break.word?
  | "sb" | "sentencebreak" => some Break.sentence?
  | _ => none

/-- The set of a name with a value. -/
def findValue (name value : List Char) : Except LookupError CharSet :=
  let n := normalize name
  match valued? n with
  | some select => (select (normalize value)).elim (.error .unknownValue) .ok
  | none =>
    if valuedProperties.contains n || (Property.named? n).isSome then .error .unknownValue
    else .error .unknownProperty

end Lookup

end TagEdit.Unicode
