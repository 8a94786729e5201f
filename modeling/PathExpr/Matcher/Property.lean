import PathExpr.Matcher.Pattern
import PathExpr.Matcher.Refusal
import PathExpr.Unicode.Letter
import PathExpr.Unicode.Script
import PathExpr.Unicode.Age
import PathExpr.Unicode.Segmentation

/-!
# PathExpr/Matcher/Property — the classes that a property query names

A name is compared without regard to case, blanks, hyphens, underscores and a leading `is`.  A
single name is that of a yes-or-no property, a general category or a script; a pair names one of the
properties with several values and a value of it.
-/

namespace PathExpr.Matcher

/-- The characters of a name that count, in lower case; characters outside ASCII do not. -/
def significant (name : List Char) : List Char :=
  ((name.filter fun c => isAscii c && c ≠ ' ' && c ≠ '_' && c ≠ '-').map Char.toLower)

/-- Whether the name begins with `is`. -/
def beginsWithIs (name : List Char) : Bool := (name.take 2).map Char.toLower = ['i', 's']

/-- The name in the form in which the tables list it. -/
def normalizeName (name : List Char) : String :=
  let body := significant (if beginsWithIs name then name.drop 2 else name)
  if beginsWithIs name ∧ body = ['c'] then "isc" else String.ofList body

/-- The properties with values of their own that a pattern can ask for. -/
inductive ValuedProperty
  | category
  | script
  | scriptExtensions
  | age
  | segmentation (s : Segmentation)
  /-- Any other property; none of its values is known. -/
  | other

/-- The names of the properties that can be named but have no values here. -/
def otherPropertyNames : List String :=
  ["bc", "bidiclass", "bidimirroringglyph", "bidipairedbracket", "bidipairedbrackettype", "blk",
    "block", "bmg", "bpb", "bpt", "canonicalcombiningclass", "casefolding", "ccc", "ce", "cf",
    "cjkaccountingnumeric", "cjkcompatibilityvariant", "cjkiicore", "cjkirggsource",
    "cjkirghsource", "cjkirgjsource", "cjkirgkpsource", "cjkirgksource", "cjkirgmsource",
    "cjkirgssource", "cjkirgtsource", "cjkirguksource", "cjkirgusource", "cjkirgvsource",
    "cjkothernumeric", "cjkprimarynumeric", "cjkrsunicode", "compex", "compositionexclusion",
    "decompositionmapping", "decompositiontype", "dm", "dt", "ea", "eastasianwidth",
    "equnifiedideograph", "equideo", "expandsonnfc", "expandsonnfd", "expandsonnfkc",
    "expandsonnfkd", "fcnfkc", "fcnfkcclosure", "fullcompositionexclusion", "hangulsyllabletype",
    "hst", "idtype", "identifierstatus", "identifiertype", "incb", "indicconjunctbreak",
    "indicpositionalcategory", "indicsyllabiccategory", "inpc", "insc", "isc", "isocomment",
    "jamoshortname", "jg", "joininggroup", "joiningtype", "jsn", "jt", "lb", "lc", "linebreak",
    "lowercasemapping", "na", "na1", "name", "namealias", "nfcqc", "nfcquickcheck",
    "nfdqc", "nfdquickcheck", "nfkccasefold", "nfkccf", "nfkcqc", "nfkcquickcheck", "nfkcscf",
    "nfkcsimplecasefold", "nfkdqc", "nfkdquickcheck", "nt", "numerictype", "numericvalue", "nv",
    "scf", "sfc", "simplecasefolding", "simplelowercasemapping", "simpletitlecasemapping",
    "simpleuppercasemapping", "slc", "stc", "suc", "tc", "titlecasemapping", "uc", "unicode1name",
    "unicoderadicalstroke", "uppercasemapping", "urs", "verticalorientation", "vo", "xonfc",
    "xonfd", "xonfkc", "xonfkd"]

/-- The property with values that has the given name. -/
def valuedProperty? (name : String) : Option ValuedProperty :=
  match name with
  | "generalcategory" => some .category
  | "gc" => some .category
  | "script" => some .script
  | "sc" => some .script
  | "scriptextensions" => some .scriptExtensions
  | "scx" => some .scriptExtensions
  | "age" => some .age
  | _ =>
    match Segmentation.named? name with
    | some s => some (.segmentation s)
    | none =>
      if otherPropertyNames.contains name || (propertyNamed? name).isSome then some .other
      else none

/-- The code points for which a property has the given value. -/
def ValuedProperty.members? (p : ValuedProperty) (value : String) : Option CharSet :=
  match p with
  | .category => categoryNamed? value
  | .script => (Script.named? value).map Script.members
  | .scriptExtensions => (Script.named? value).map Script.extendedMembers
  | .age => Age.named? value
  | .segmentation s => s.members? value
  | .other => none

/-- The names of categories that are also names of properties, and then mean the category. -/
def categoriesFirst : List String := ["cf", "sc", "lc"]

/-- The class that a single name stands for. -/
def namedProperty (name : String) : Except Refusal CharSet :=
  match if categoriesFirst.contains name then none else propertyNamed? name with
  | some p => .ok p.members
  | none =>
    match categoryNamed? name with
    | some s => .ok s
    | none =>
      match Script.named? name with
      | some s => .ok s.members
      | none =>
        if Script.vacant.contains name then .error .propertyValueNotFound
        else .error .propertyNotFound

/-- The class that a query stands for. -/
def PropertyQuery.members : PropertyQuery → Except Refusal CharSet
  | .named name => namedProperty (normalizeName name)
  | .valued name value =>
    match valuedProperty? (normalizeName name) with
    | none => .error .propertyNotFound
    | some p =>
      match p.members? (normalizeName value) with
      | some s => .ok s
      | none => .error .propertyValueNotFound

end PathExpr.Matcher
