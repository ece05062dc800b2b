import LineExtraction.Unicode.AgeTable
import LineExtraction.Unicode.CaseChange
import LineExtraction.Unicode.ScriptExtensionTable
import LineExtraction.Unicode.ScriptTable
import LineExtraction.Unicode.SentenceBreak
import LineExtraction.Unicode.WordBreak

/-!
# Character classes by name

A Unicode class is asked for by the name of a binary property, of a general
category or of a script, or by a property together with a value.  Names are
matched loosely: case, spaces, hyphens and underscores do not count, and neither
does a leading `is`.
-/

namespace LineExtraction
namespace Unicode

open CodePointSet

/-! ## The classes behind the one-letter escapes -/

/-- The characters of a word. -/
def wordSet : CodePointSet := ⟨WordTable.word⟩

/-- The decimal digits. -/
def digitSet : CodePointSet := ⟨GeneralCategoryTable.decimalNumber⟩

/-- The white space. -/
def spaceSet : CodePointSet := ⟨PropertyTable.whiteSpace.ranges⟩

/-- Whether the character is white space. -/
def isWhiteSpace (char : Char) : Bool :=
  spaceSet.containsChar char

/-! ## Properties and scripts -/

/-- The characters written in the script of a name in matching form. -/
def scriptNamed? (name : String) : Option CodePointSet :=
  (ScriptTable.all.find? (name ∈ ·.names)).map fun script => ⟨script.ranges⟩

/-- The characters used with a script.  A character that is used with several
scripts belongs to all of those and to no other. -/
def Script.extended (script : Script) : CodePointSet :=
  let shared := ScriptExtensionTable.entries
  ((CodePointSet.mk script.ranges).difference (.ofRanges (shared.map (·.1)))).union <|
    .ofRanges ((shared.filter fun entry => script.names.any (· ∈ entry.2)).map (·.1))

/-- The characters used with the script of a name in matching form. -/
def scriptExtensionNamed? (name : String) : Option CodePointSet :=
  (ScriptTable.all.find? (name ∈ ·.names)).map Script.extended

/-- The scalar values assigned by the database version of a name in matching form,
or by an earlier one. -/
def ageNamed? (name : String) : Option CodePointSet :=
  (AgeTable.versions.findIdx? (name ∈ ·.names)).map fun index =>
    unionOf ((AgeTable.versions.take (index + 1)).map (·.added))

/-- The binary property of a name in matching form. -/
def propertyNamed? (name : String) : Option CodePointSet :=
  ((PropertyTable.all.find? (name ∈ ·.names)).map fun property =>
    CodePointSet.mk property.ranges) <|>
    CaseChange.named? name <|> GraphemeBreak.property? name

/-- The properties with more than two values that can be asked for with a value. -/
inductive ValuedProperty where
  | generalCategory
  | script
  | scriptExtensions
  | age
  | graphemeBreak
  | wordBreak
  | sentenceBreak
deriving DecidableEq, Repr

namespace ValuedProperty

/-- The valued property of a name in matching form. -/
def named? (name : String) : Option ValuedProperty :=
  match name with
  | "gc" | "generalcategory" | "category" => some .generalCategory
  | "sc" | "script" => some .script
  | "scx" | "scriptextensions" => some .scriptExtensions
  | "age" => some .age
  | "gcb" | "graphemeclusterbreak" => some .graphemeBreak
  | "wb" | "wordbreak" => some .wordBreak
  | "sb" | "sentencebreak" => some .sentenceBreak
  | _ => none

/-- The characters for which the property has the value of a name in matching form. -/
def valueNamed? (property : ValuedProperty) (name : String) : Option CodePointSet :=
  match property with
  | .generalCategory => GeneralCategory.named? name
  | .script => scriptNamed? name
  | .scriptExtensions => scriptExtensionNamed? name
  | .age => ageNamed? name
  | .graphemeBreak => GraphemeBreak.named? name
  | .wordBreak => WordBreak.named? name
  | .sentenceBreak => SentenceBreak.named? name

end ValuedProperty

/-- Names of properties whose values are no sets of characters here.  None of them
can stand alone, though a category or a script may share the name. -/
def otherPropertyNames : List String :=
  ["bc", "bidiclass", "bidimirroringglyph", "bidipairedbracket", "bidipairedbrackettype",
    "blk", "block", "bmg", "bpb", "bpt", "canonicalcombiningclass", "casefolding", "ccc",
    "ce", "cf", "changeswhennfkccasefolded", "cjkaccountingnumeric",
    "cjkcompatibilityvariant", "cjkiicore", "cjkirggsource", "cjkirghsource",
    "cjkirgjsource", "cjkirgkpsource", "cjkirgksource", "cjkirgmsource", "cjkirgssource",
    "cjkirgtsource", "cjkirguksource", "cjkirgusource", "cjkirgvsource", "cjkmandarin",
    "cjkothernumeric", "cjkprimarynumeric", "cjkrsunicode", "cjktotalstrokes",
    "cjkunihancore2020", "compex", "compositionexclusion", "cwkcf", "decompositionmapping",
    "decompositiontype", "dm", "dt", "ea", "eastasianwidth", "equideo",
    "equivalentunifiedideograph", "expandsonnfc", "expandsonnfd", "expandsonnfkc",
    "expandsonnfkd", "fcnfkc", "fcnfkcclosure", "fullcompositionexclusion",
    "hangulsyllabletype", "hst", "incb", "indicconjunctbreak", "indicpositionalcategory",
    "indicsyllabiccategory", "inpc", "insc", "isc", "jamoshortname", "jg", "joininggroup",
    "joiningtype", "jsn", "jt", "kaccountingnumeric", "kcompatibilityvariant", "kehcat",
    "kehcore", "kehdesc", "kehfunc", "kehfval", "kehhg", "kehifao", "kehjsesh",
    "kehnomirror", "kehnorotate", "kehunik", "kiicore", "kirggsource", "kirghsource",
    "kirgjsource", "kirgkpsource", "kirgksource", "kirgmsource", "kirgssource",
    "kirgtsource", "kirguksource", "kirgusource", "kirgvsource", "kmandarin",
    "kothernumeric", "kprimarynumeric", "krsunicode", "ktotalstrokes", "kunihancore2020",
    "lb", "lc", "linebreak", "lowercasemapping", "na", "na1", "name", "namealias", "nfcqc",
    "nfcquickcheck", "nfdqc", "nfdquickcheck", "nfkccasefold", "nfkccf", "nfkcqc",
    "nfkcquickcheck", "nfkcscf", "nfkcsimplecasefold", "nfkdqc", "nfkdquickcheck", "nt",
    "numerictype", "numericvalue", "nv", "ocomment", "scf", "sfc", "simplecasefolding",
    "simplelowercasemapping", "simpletitlecasemapping", "simpleuppercasemapping", "slc",
    "stc", "suc", "tc", "titlecasemapping", "uc", "unicode1name", "unicoderadicalstroke",
    "uppercasemapping", "urs", "verticalorientation", "vo", "xonfc", "xonfd", "xonfkc",
    "xonfkd"]

/-- Names of scripts that no character is written in: the union of two scripts, and what
is said of a character whose script is not known. -/
def scriptNamesWithoutMembers : List String :=
  ["hrkt", "katakanaorhiragana", "unknown", "zzzz"]

/-- Names of categories that hold no scalar value. -/
def categoryNamesWithoutMembers : List String :=
  ["cs", "surrogate"]

/-- Why a class has no meaning. -/
inductive ClassNameError where
  | unknownProperty
  | unknownValue
deriving DecidableEq, Repr

/-! ## Loose matching -/

/-- A name without what loose matching ignores inside a name. -/
def looseChars : List Char → List Char
  | [] => []
  | char :: rest =>
    if char = ' ' ∨ char = '_' ∨ char = '-' ∨ 0x80 ≤ char.toNat then looseChars rest
    else char.toLower :: looseChars rest

/-- A name in matching form.  A leading `is` is dropped, except that `isc` keeps it
and so is no spelling of the category `c`. -/
def matchingForm (name : List Char) : String :=
  match name with
  | first :: second :: rest =>
    if first.toLower = 'i' ∧ second.toLower = 's' then
      let short := looseChars rest
      if short = ['c'] then "isc" else String.ofList short
    else String.ofList (looseChars name)
  | _ => String.ofList (looseChars name)

/-- The class of a single name.  Binary properties come before categories, and
categories before scripts. -/
def classNamed (name : List Char) : Except ClassNameError CodePointSet :=
  let form := matchingForm name
  let category := (GeneralCategory.named? form).or (scriptNamed? form)
  let found :=
    if form = "cf" ∨ form = "sc" ∨ form = "lc" then category
    else
      match propertyNamed? form with
      | some set => some set
      | none =>
        if (ValuedProperty.named? form).isSome ∨ form ∈ otherPropertyNames then none
        else category
  match found with
  | some set => .ok set
  | none =>
    if form ∈ categoryNamesWithoutMembers ∨ form ∈ scriptNamesWithoutMembers then
      .error .unknownValue
    else .error .unknownProperty

/-- The class of the characters for which a property has a value. -/
def classValued (property value : List Char) : Except ClassNameError CodePointSet :=
  let name := matchingForm property
  match ValuedProperty.named? name with
  | some valued =>
    match valued.valueNamed? (matchingForm value) with
    | some set => .ok set
    | none => .error .unknownValue
  | none =>
    if (propertyNamed? name).isSome ∨ name ∈ otherPropertyNames then .error .unknownValue
    else .error .unknownProperty

end Unicode
end LineExtraction
