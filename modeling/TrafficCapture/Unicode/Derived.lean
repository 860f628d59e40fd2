import TrafficCapture.Unicode.Category
import TrafficCapture.Unicode.Property

/-! Properties that follow from general categories and other properties, and the classes that
patterns write as one letter. -/

namespace TrafficCapture.Unicode

/-- The characters whose general category has one of the names, which are those of no group. -/
def inCategories (names : List String) : Charset :=
  .unions (names.filterMap (PropertyValue.find? categories))

/-- The characters with a property that is given by its members. -/
def having (name : String) : Charset := (PropertyValue.find? tabulated name).getD .empty

def lowercase : Charset := (inCategories ["ll"]).union (having "otherlowercase")

def uppercase : Charset := (inCategories ["lu"]).union (having "otheruppercase")

def cased : Charset := .unions [lowercase, uppercase, inCategories ["lt"]]

def math : Charset := (inCategories ["sm"]).union (having "othermath")

def graphemeExtend : Charset := (inCategories ["me", "mn"]).union (having "othergraphemeextend")

def graphemeBase : Charset :=
  ((inCategories ["cc", "cf", "cs", "co", "cn", "zl", "zp"]).union graphemeExtend).complement

def alphabetic : Charset :=
  .unions [lowercase, uppercase, inCategories ["lt", "lm", "lo", "nl"], having "otheralphabetic"]

/-- The characters that patterns of text formats keep for their own use. -/
def patternCharacters : Charset := (having "patternsyntax").union (having "patternwhitespace")

def identifierStart : Charset :=
  ((inCategories ["lu", "ll", "lt", "lm", "lo", "nl"]).union (having "otheridstart")).diff
    patternCharacters

def identifierContinue : Charset :=
  (Charset.unions [identifierStart, inCategories ["mn", "mc", "nd", "pc"],
    having "otheridcontinue"]).diff patternCharacters

/-- What `identifierContinue` loses so that it is kept by compatibility composition. -/
def unstableContinue : Charset :=
  .ofText "37A 309B-309C FC5E-FC63 FDFA-FDFB FE70-FE7E/2"

/-- What `identifierStart` loses so that it is kept by compatibility composition. -/
def unstableStart : Charset :=
  unstableContinue.union (.ofText "E33 EB3 FF9E-FF9F")

def changesWhenCasemapped : Charset :=
  .unions [having "changeswhenlowercased", having "changeswhenuppercased",
    having "changeswhentitlecased"]

/-- The set of a property that holds or not, by its name in lower case and without separators. -/
def property? (name : String) : Option Charset :=
  if ["lower", "lowercase"].contains name then some lowercase
  else if ["upper", "uppercase"].contains name then some uppercase
  else if name == "cased" then some cased
  else if name == "math" then some math
  else if ["grext", "graphemeextend"].contains name then some graphemeExtend
  else if ["grbase", "graphemebase"].contains name then some graphemeBase
  else if ["alpha", "alphabetic"].contains name then some alphabetic
  else if ["ids", "idstart"].contains name then some identifierStart
  else if ["idc", "idcontinue"].contains name then some identifierContinue
  else if ["xids", "xidstart"].contains name then some (identifierStart.diff unstableStart)
  else if ["xidc", "xidcontinue"].contains name then
    some (identifierContinue.diff unstableContinue)
  else if ["cwcm", "changeswhencasemapped"].contains name then some changesWhenCasemapped
  else PropertyValue.find? tabulated name

/-! ### Classes written as one letter -/

/-- The decimal digits. -/
def digits : Charset := inCategories ["nd"]

def whiteSpace : Charset := having "whitespace"

/-- The characters of words. -/
def wordCharacters : Charset :=
  .unions [alphabetic, inCategories ["mn", "mc", "me", "nd", "pc"], having "joincontrol"]

/-- The letters and numbers. -/
def alphanumeric : Charset := alphabetic.union (inCategories ["nd", "nl", "no"])

end TrafficCapture.Unicode
