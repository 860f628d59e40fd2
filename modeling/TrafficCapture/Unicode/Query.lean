import TrafficCapture.Unicode.Age
import TrafficCapture.Unicode.Derived
import TrafficCapture.Unicode.Script
import TrafficCapture.Unicode.ScriptExtensions
import TrafficCapture.Unicode.Segmentation

/-! Sets of characters by the names of properties and of their values. Names are compared loosely:
case, separators and a leading "is" do not count. -/

namespace TrafficCapture.Unicode

/-- Why a name stands for no set of characters. -/
inductive QueryFault where
  | unknownProperty
  | unknownValue
  deriving DecidableEq, Repr

/-- The form in which names are compared. -/
def looseName (name : List Char) : String :=
  let behind :=
    match name with
    | a :: b :: rest => if a.toLower == 'i' && b.toLower == 's' then some rest else none
    | _ => none
  let kept (cs : List Char) : List Char :=
    (cs.filter fun c => c != ' ' && c != '_' && c != '-' && c.toNat < 0x80).map Char.toLower
  match behind with
  | none => String.ofList (kept name)
  | some rest => if kept rest == ['c'] then "isc" else String.ofList (kept rest)

/-- Names of categories and scripts that no character has which a text can hold. -/
def vacantCategories : List String := ["cs", "surrogate"]

def vacantScripts : List String := ["zzzz", "unknown", "hrkt", "katakanaorhiragana"]

def assigned : Charset := (inCategories ["cn"]).complement

/-- The set of a general category or a group of them; `none` if there is none of that name. -/
def category? (name : String) : Option (Except QueryFault Charset) :=
  if name == "any" then some (.ok .all)
  else if name == "assigned" then some (.ok assigned)
  else if name == "ascii" then some (.ok (.range 0 0x7F))
  else if vacantCategories.contains name then some (.error .unknownValue)
  else
    match categoryGroups.find? (·.1.contains name) with
    | some (_, parts) => some (.ok (inCategories parts))
    | none => (PropertyValue.find? categories name).map .ok

def script? (name : String) : Option (Except QueryFault Charset) :=
  if vacantScripts.contains name then some (.error .unknownValue)
  else (PropertyValue.find? scripts name).map .ok

/-- Names that stand for a category although a property has the same short name. -/
def ambiguous : List String := ["cf", "sc", "lc"]

/-- The set that a single name stands for: a property, else a category, else a script. -/
def named (name : List Char) : Except QueryFault Charset :=
  let name := looseName name
  match if ambiguous.contains name then none else property? name with
  | some set => .ok set
  | none => ((category? name).or (script? name)).getD (.error .unknownProperty)

/-- Names of properties that are neither held nor lacked, other than those with values below. -/
def valuedProperties : List String :=
  ["cjkaccountingnumeric", "kaccountingnumeric", "cjkothernumeric", "kothernumeric",
    "cjkprimarynumeric", "kprimarynumeric", "nv", "numericvalue", "bmg", "bidimirroringglyph",
    "bpb", "bidipairedbracket", "cf", "casefolding", "cjkcompatibilityvariant",
    "kcompatibilityvariant", "dm", "decompositionmapping", "equideo",
    "equivalentunifiedideograph", "fcnfkc", "fcnfkcclosure", "lc", "lowercasemapping", "nfkccf",
    "nfkccasefold", "nfkcscf", "nfkcsimplecasefold", "scf", "simplecasefolding", "sfc", "slc",
    "simplelowercasemapping", "stc", "simpletitlecasemapping", "suc", "simpleuppercasemapping",
    "tc", "titlecasemapping", "uc", "uppercasemapping", "cjkiicore", "kiicore", "cjkirggsource",
    "kirggsource", "cjkirghsource", "kirghsource", "cjkirgjsource", "kirgjsource",
    "cjkirgkpsource", "kirgkpsource", "cjkirgksource", "kirgksource", "cjkirgmsource",
    "kirgmsource", "cjkirgssource", "kirgssource", "cjkirgtsource", "kirgtsource",
    "cjkirguksource", "kirguksource", "cjkirgusource", "kirgusource", "cjkirgvsource",
    "kirgvsource", "cjkrsunicode", "krsunicode", "unicoderadicalstroke", "urs", "isc",
    "isocomment", "jsn", "jamoshortname", "na", "name", "na1", "unicode1name", "namealias", "blk",
    "block", "bc", "bidiclass", "bpt", "bidipairedbrackettype", "ccc", "canonicalcombiningclass",
    "dt", "decompositiontype", "ea", "eastasianwidth", "hst", "hangulsyllabletype", "incb",
    "indicconjunctbreak", "inpc", "indicpositionalcategory", "insc", "indicsyllabiccategory", "jg",
    "joininggroup", "jt", "joiningtype", "lb", "linebreak", "nfcqc", "nfcquickcheck", "nfdqc",
    "nfdquickcheck", "nfkcqc", "nfkcquickcheck", "nfkdqc", "nfkdquickcheck", "nt", "numerictype",
    "vo", "verticalorientation", "ce", "compositionexclusion", "compex",
    "fullcompositionexclusion", "cwkcf", "changeswhennfkccasefolded", "idsu", "idsunaryoperator",
    "idcompatmathcontinue", "idcompatmathstart", "mcm", "modifiercombiningmark", "xonfc",
    "expandsonnfc", "xonfd", "expandsonnfd", "xonfkc", "expandsonnfkc", "xonfkd", "expandsonnfkd"]

/-- The characters that were assigned no later than in the version of that name. -/
def age? (name : String) : Option Charset :=
  match ages.findIdx? (·.names.contains name) with
  | none => none
  | some i => some (.unions ((ages.take (i + 1)).map PropertyValue.charset))

/-- The set of the characters for which the named property has the named value. -/
def valued (property value : List Char) : Except QueryFault Charset :=
  let property := looseName property
  let value := looseName value
  let orUnknown (set : Option Charset) := (set.map Except.ok).getD (.error .unknownValue)
  if ["gc", "generalcategory"].contains property then
    (category? value).getD (.error .unknownValue)
  else if ["sc", "script"].contains property then (script? value).getD (.error .unknownValue)
  else if ["scx", "scriptextensions"].contains property then
    orUnknown (PropertyValue.find? scriptExtensions value)
  else if property == "age" then orUnknown (age? value)
  else if ["gcb", "graphemeclusterbreak"].contains property then
    orUnknown (PropertyValue.find? graphemeBreaks value)
  else if ["wb", "wordbreak"].contains property then
    orUnknown (PropertyValue.find? wordBreaks value)
  else if ["sb", "sentencebreak"].contains property then
    orUnknown (PropertyValue.find? sentenceBreaks value)
  else if valuedProperties.contains property || (property? property).isSome then
    .error .unknownValue
  else .error .unknownProperty

end TrafficCapture.Unicode
