import TextSieve.Regex.Syntax
import TextSieve.Regex.Error
import TextSieve.Text.CharSet
import TextSieve.Regex.Unicode.Ages
import TextSieve.Regex.Unicode.Breaks
import TextSieve.Regex.Unicode.Categories
import TextSieve.Regex.Unicode.Scripts
import TextSieve.Regex.Unicode.ScriptExtensions
import TextSieve.Regex.Unicode.Properties

/-!
Sets of characters by the name of a property. Names are compared in loose spelling: case, blanks,
hyphens, underscores, and a leading `is` do not count.
-/

namespace TextSieve.Regex.Property

open Unicode

/-- A name without a leading `is`. -/
def dropIs : Text → Text × Bool
  | i :: s :: t =>
    if (i = 'i' || i = 'I') && (s = 's' || s = 'S') then (t, true) else (i :: s :: t, false)
  | t => (t, false)

/-- The loose spelling of a name; `isc` keeps its front, since `c` is the name of something
else. -/
def loose (name : Text) : Text :=
  let (t, dropped) := dropIs name
  let t := (t.filter fun c => c.toNat < 128 && c ≠ ' ' && c ≠ '_' && c ≠ '-').map Char.toLower
  if dropped && t == ['c'] then "isc" else t

/-- Looks a name in loose spelling up in a table. -/
def lookup (table : List (List String × List String)) (name : Text) : Option CharSet :=
  (table.find? fun e => e.1.any fun n => n.toList == name).map fun e => .ofDistances e.2

/-- General categories that are unions of others: their names, and the names of the others. -/
def categoryGroups : List (List String × List String) := [
  (["c", "other"], ["cc", "cf", "cn", "co"]),
  (["l", "letter"], ["lu", "ll", "lt", "lm", "lo"]),
  (["lc", "casedletter"], ["lu", "ll", "lt"]),
  (["m", "mark", "combiningmark"], ["mn", "mc", "me"]),
  (["n", "number"], ["nd", "nl", "no"]),
  (["p", "punctuation", "punct"], ["pc", "pd", "ps", "pe", "pi", "pf", "po"]),
  (["s", "symbol"], ["sm", "sc", "sk", "so"]),
  (["z", "separator"], ["zs", "zl", "zp"])]

/-- General categories without a set of characters. -/
def emptyCategories : List String := ["cs", "surrogate"]

/-- Scripts without a set of characters. -/
def emptyScripts : List String := ["hrkt", "katakanaorhiragana", "zzzz", "unknown"]

/-- A single general category. -/
def category (name : Text) : CharSet := (lookup categories name).getD .empty

/-- The set of a general category, or of all, of all assigned, or of all ASCII characters. The
outer level is empty when no category has the name. -/
def categorySet? (name : Text) : Option (Except Flaw CharSet) :=
  if name = "any".toList then some (.ok (CharSet.compl .empty))
  else if name = "assigned".toList then some (.ok (category "cn").compl)
  else if name = "ascii".toList then some (.ok (.range 0 0x7F))
  else if emptyCategories.any fun n => n.toList == name then some (.error .propertyValueUnknown)
  else
    match categoryGroups.find? fun g => g.1.any fun n => n.toList == name with
    | some g => some (.ok (g.2.foldl (fun s n => s.union (category n.toList)) .empty))
    | none => (lookup categories name).map .ok

/-- The set of a script. The outer level is empty when no script has the name. -/
def scriptSet? (table : List (List String × List String)) (name : Text) :
    Option (Except Flaw CharSet) :=
  if emptyScripts.any fun n => n.toList == name then some (.error .propertyValueUnknown)
  else (lookup table name).map .ok

/-- Names of properties whose values cannot be asked for. -/
def otherProperties : List String := [
  "bc", "bidiclass", "bidimirroringglyph", "bidipairedbracket", "bidipairedbrackettype", "blk",
  "block", "bmg", "bpb", "bpt", "canonicalcombiningclass", "casefolding", "ccc", "ce", "cf",
  "changeswhennfkccasefolded", "cjkaccountingnumeric", "cjkcompatibilityvariant", "cjkiicore",
  "cjkirggsource", "cjkirghsource", "cjkirgjsource", "cjkirgkpsource", "cjkirgksource",
  "cjkirgmsource", "cjkirgssource", "cjkirgtsource", "cjkirguksource", "cjkirgusource",
  "cjkirgvsource", "cjkothernumeric", "cjkprimarynumeric", "cjkrsunicode", "compex",
  "compositionexclusion", "cwkcf", "decompositionmapping", "decompositiontype", "dm", "dt", "ea",
  "eastasianwidth", "equideo", "equivalentunifiedideograph", "expandsonnfc", "expandsonnfd",
  "expandsonnfkc", "expandsonnfkd", "fcnfkc", "fcnfkcclosure", "fullcompositionexclusion",
  "hangulsyllabletype", "hst", "incb", "indicconjunctbreak", "indicpositionalcategory",
  "indicsyllabiccategory", "inpc", "insc", "isc", "isocomment", "jamoshortname", "jg",
  "joininggroup", "joiningtype", "jsn", "jt", "kaccountingnumeric", "kcompatibilityvariant",
  "kiicore", "kirggsource", "kirghsource", "kirgjsource", "kirgkpsource", "kirgksource",
  "kirgmsource", "kirgssource", "kirgtsource", "kirguksource", "kirgusource", "kirgvsource",
  "kothernumeric", "kprimarynumeric", "krsunicode", "lb", "lc", "linebreak", "lowercasemapping",
  "na", "na1", "name", "namealias", "nfcqc", "nfcquickcheck", "nfdqc", "nfdquickcheck",
  "nfkccasefold", "nfkccf", "nfkcqc", "nfkcquickcheck", "nfkcscf", "nfkcsimplecasefold",
  "nfkdqc", "nfkdquickcheck", "nt", "numerictype", "numericvalue", "nv", "scf", "sfc",
  "simplecasefolding", "simplelowercasemapping", "simpletitlecasemapping",
  "simpleuppercasemapping", "slc", "stc", "suc", "tc", "titlecasemapping", "uc", "unicode1name",
  "unicoderadicalstroke", "uppercasemapping", "urs", "verticalorientation", "vo", "xonfc",
  "xonfd", "xonfkc", "xonfkd"]

/-- The tables of values of properties that have them, by the names of the properties. -/
def valueTables : List (List String × List (List String × List String)) := [
  (["gcb", "graphemeclusterbreak"], graphemeBreaks),
  (["wb", "wordbreak"], wordBreaks),
  (["sb", "sentencebreak"], sentenceBreaks)]

/-- The characters of all versions up to the one with a name. -/
def ageSet? (name : Text) : List (List String × List String) → Option CharSet
  | [] => none
  | (names, distances) :: versions =>
    let s := CharSet.ofDistances distances
    if names.any fun n => n.toList == name then some s
    else (ageSet? name versions).map s.union

/-- Some property has the name, whatever its values. -/
def isProperty (name : Text) : Bool :=
  otherProperties.any (fun n => n.toList == name) ||
    properties.any fun e => e.1.any fun n => n.toList == name

/-- Names that stand for a general category, although a property has them too. -/
def categoryFirst : List String := ["cf", "sc", "lc"]

/-- The set of a property that holds or not, of a general category, or of a script. -/
def named (name : Text) : Except Flaw CharSet :=
  let name := loose name
  let property :=
    if categoryFirst.any fun n => n.toList == name then none
    else (lookup properties name).map Except.ok
  (((property.or (categorySet? name)).or (scriptSet? scripts name)).getD
    (.error .propertyUnknown))

/-- The set of the characters for which a property has a value. -/
def valued (name value : Text) : Except Flaw CharSet :=
  let name := loose name
  let value := loose value
  let known (set : Option (Except Flaw CharSet)) := set.getD (.error .propertyValueUnknown)
  if name = "gc".toList || name = "generalcategory".toList then known (categorySet? value)
  else if name = "sc".toList || name = "script".toList then known (scriptSet? scripts value)
  else if name = "scx".toList || name = "scriptextensions".toList then
    known (scriptSet? scriptExtensions value)
  else if name = "age".toList then known ((ageSet? value ages).map .ok)
  else
    match valueTables.find? fun t => t.1.any fun n => n.toList == name with
    | some t => known ((lookup t.2 value).map .ok)
    | none => .error (if isProperty name then .propertyValueUnknown else .propertyUnknown)

/-- The set that a query asks for. -/
def resolve : PropertyQuery → Except Flaw CharSet
  | .name n => named n
  | .value n v _ => valued n v

end TextSieve.Regex.Property
