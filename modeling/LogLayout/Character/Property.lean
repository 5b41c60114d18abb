import LogLayout.Character.Identifier
import LogLayout.Character.SentenceBreak
import LogLayout.Character.Age
import LogLayout.Character.ScriptExtension

/- Sets of characters by the names of their properties. A name may stand alone, for a property that
   characters have or lack, for a general category or for a script; or it comes with a value. -/
namespace LogLayout.Character

/-- Surrogates have a category but no set, as they are no characters. -/
def categoryNamed? : String → Option Ranges
  | "any" => some [(0, Ranges.last)]
  | "assigned" => some assigned
  | "ascii" => some [(0, 127)]
  | "l" | "letter" => some letters
  | "lc" | "casedletter" => some casedLetters
  | "lu" | "uppercaseletter" => some uppercaseLetters
  | "ll" | "lowercaseletter" => some lowercaseLetters
  | "lt" | "titlecaseletter" => some titlecaseLetters
  | "lm" | "modifierletter" => some modifierLetters
  | "lo" | "otherletter" => some otherLetters
  | "m" | "mark" | "combiningmark" => some marks
  | "mn" | "nonspacingmark" => some nonspacingMarks
  | "mc" | "spacingmark" => some spacingMarks
  | "me" | "enclosingmark" => some enclosingMarks
  | "n" | "number" => some numbers
  | "nd" | "digit" | "decimalnumber" => some decimalNumbers
  | "nl" | "letternumber" => some letterNumbers
  | "no" | "othernumber" => some otherNumbers
  | "p" | "punct" | "punctuation" => some punctuation
  | "pc" | "connectorpunctuation" => some connectorPunctuation
  | "pd" | "dashpunctuation" => some dashPunctuation
  | "ps" | "openpunctuation" => some openPunctuation
  | "pe" | "closepunctuation" => some closePunctuation
  | "pi" | "initialpunctuation" => some initialPunctuation
  | "pf" | "finalpunctuation" => some finalPunctuation
  | "po" | "otherpunctuation" => some otherPunctuation
  | "s" | "symbol" => some symbols
  | "sm" | "mathsymbol" => some mathSymbols
  | "sc" | "currencysymbol" => some currencySymbols
  | "sk" | "modifiersymbol" => some modifierSymbols
  | "so" | "othersymbol" => some otherSymbols
  | "z" | "separator" => some separators
  | "zs" | "spaceseparator" => some spaceSeparators
  | "zl" | "lineseparator" => some lineSeparators
  | "zp" | "paragraphseparator" => some paragraphSeparators
  | "cc" | "cntrl" | "control" => some controls
  | "cf" | "format" => some formats
  | "co" | "privateuse" => some privateUse
  | "cn" | "unassigned" => some unassigned
  | "c" | "other" => some others
  | _ => none

def propertyNamed? : String → Option Ranges
  | "ahex" | "asciihexdigit" => some asciiHexDigits
  | "alpha" | "alphabetic" => some alphabetic
  | "bidic" | "bidicontrol" => some bidiControls
  | "bidim" | "bidimirrored" => some mirrored
  | "caseignorable" | "ci" => some caseIgnorable
  | "cased" => some cased
  | "changeswhencasefolded" | "cwcf" => some changesWhenCasefolded
  | "changeswhencasemapped" | "cwcm" => some changesWhenCasemapped
  | "changeswhenlowercased" | "cwl" => some changesWhenLowercased
  | "changeswhentitlecased" | "cwt" => some changesWhenTitlecased
  | "changeswhenuppercased" | "cwu" => some changesWhenUppercased
  | "dash" => some dashes
  | "defaultignorablecodepoint" | "di" => some defaultIgnorable
  | "dep" | "deprecated" => some deprecated
  | "dia" | "diacritic" => some diacritics
  | "emoji" => some emoji
  | "ecomp" | "emojicomponent" => some emojiComponents
  | "emod" | "emojimodifier" => some emojiModifiers
  | "ebase" | "emojimodifierbase" => some emojiModifierBases
  | "emojipresentation" | "epres" => some emojiPresentation
  | "extendedpictographic" | "extpict" => some extendedPictographic
  | "ext" | "extender" => some extenders
  | "graphemebase" | "grbase" => some graphemeBase
  | "graphemeextend" | "grext" => some graphemeExtend
  | "graphemelink" | "grlink" => some graphemeLinks
  | "hex" | "hexdigit" => some hexDigits
  | "hyphen" => some hyphens
  | "idsb" | "idsbinaryoperator" => some binaryOperators
  | "idst" | "idstrinaryoperator" => some trinaryOperators
  | "idsu" | "idsunaryoperator" => some unaryOperators
  | "idcompatmathcontinue" => some idCompatMathContinue
  | "idcompatmathstart" => some idCompatMathStart
  | "idc" | "idcontinue" => some idContinue
  | "ids" | "idstart" => some idStart
  | "ideo" | "ideographic" => some ideographic
  | "joinc" | "joincontrol" => some joinControls
  | "loe" | "logicalorderexception" => some logicalOrderExceptions
  | "lower" | "lowercase" => some lowercase
  | "math" => some math
  | "mcm" | "modifiercombiningmark" => some modifierCombiningMarks
  | "nchar" | "noncharactercodepoint" => some noncharacters
  | "oalpha" | "otheralphabetic" => some otherAlphabetic
  | "odi" | "otherdefaultignorablecodepoint" => some otherDefaultIgnorable
  | "ogrext" | "othergraphemeextend" => some otherGraphemeExtend
  | "oidc" | "otheridcontinue" => some otherIdContinue
  | "oids" | "otheridstart" => some otherIdStart
  | "olower" | "otherlowercase" => some otherLowercase
  | "omath" | "othermath" => some otherMath
  | "otheruppercase" | "oupper" => some otherUppercase
  | "patsyn" | "patternsyntax" => some patternSyntax
  | "patternwhitespace" | "patws" => some patternWhiteSpace
  | "pcm" | "prependedconcatenationmark" => some prependedConcatenationMarks
  | "qmark" | "quotationmark" => some quotationMarks
  | "radical" => some radicals
  | "regionalindicator" | "ri" => some regionalIndicators
  | "sentenceterminal" | "sterm" => some sentenceTerminals
  | "sd" | "softdotted" => some softDotted
  | "term" | "terminalpunctuation" => some terminalPunctuation
  | "uideo" | "unifiedideograph" => some unifiedIdeographs
  | "upper" | "uppercase" => some uppercase
  | "variationselector" | "vs" => some variationSelectors
  | "space" | "whitespace" | "wspace" => some whiteSpace
  | "xidc" | "xidcontinue" => some xidContinue
  | "xids" | "xidstart" => some xidStart
  | _ => none

/-- Names of properties that are no sets: of those with more values than two, and of those that
    patterns cannot ask for. -/
def otherProperties : List String :=
  ["age", "bc", "bidiclass", "bidimirroringglyph", "bidipairedbracket", "bidipairedbrackettype",
   "blk", "block", "bmg", "bpb", "bpt", "canonicalcombiningclass", "casefolding", "ccc", "ce",
   "cf", "changeswhennfkccasefolded", "cjkaccountingnumeric", "cjkcompatibilityvariant",
   "cjkiicore", "cjkirggsource", "cjkirghsource", "cjkirgjsource", "cjkirgkpsource",
   "cjkirgksource", "cjkirgmsource", "cjkirgssource", "cjkirgtsource", "cjkirguksource",
   "cjkirgusource", "cjkirgvsource", "cjkothernumeric", "cjkprimarynumeric", "cjkrsunicode",
   "compex", "compositionexclusion", "cwkcf", "decompositionmapping", "decompositiontype", "dm",
   "dt", "ea", "eastasianwidth", "equideo", "equivalentunifiedideograph", "expandsonnfc",
   "expandsonnfd", "expandsonnfkc", "expandsonnfkd", "fcnfkc", "fcnfkcclosure",
   "fullcompositionexclusion", "gc", "gcb", "generalcategory", "graphemeclusterbreak",
   "hangulsyllabletype", "hst", "incb", "indicconjunctbreak", "indicpositionalcategory",
   "indicsyllabiccategory", "inpc", "insc", "isc", "jamoshortname", "jg", "joininggroup",
   "joiningtype", "jsn", "jt", "kaccountingnumeric", "kcompatibilityvariant", "kehcat",
   "kehdesc", "kehhg", "kehifao", "kehjsesh", "kehnomirror", "kehnorotate", "kiicore",
   "kirggsource", "kirghsource", "kirgjsource", "kirgkpsource", "kirgksource", "kirgmsource",
   "kirgssource", "kirgtsource", "kirguksource", "kirgusource", "kirgvsource", "kothernumeric",
   "kprimarynumeric", "krsunicode", "lb", "lc", "linebreak", "lowercasemapping", "na", "na1",
   "name", "namealias", "nfcqc", "nfcquickcheck", "nfdqc", "nfdquickcheck", "nfkccasefold",
   "nfkccf", "nfkcqc", "nfkcquickcheck", "nfkcscf", "nfkcsimplecasefold", "nfkdqc",
   "nfkdquickcheck", "nt", "numerictype", "numericvalue", "nv", "ocomment", "sb", "sc", "scf",
   "script", "scriptextensions", "scx", "sentencebreak", "sfc", "simplecasefolding",
   "simplelowercasemapping", "simpletitlecasemapping", "simpleuppercasemapping", "slc", "stc",
   "suc", "tc", "titlecasemapping", "uc", "unicode1name", "unicoderadicalstroke",
   "uppercasemapping", "urs", "verticalorientation", "vo", "wb", "wordbreak", "xonfc", "xonfd",
   "xonfkc", "xonfkd"]

/-- Names are compared without case, blanks, underscores and hyphens, and without a leading is. -/
def plainName (cs : List Char) : String :=
  let lower := cs.map Char.toLower
  let (bare, stripped) := match lower with
    | 'i' :: 's' :: rest => (rest, true)
    | _ => (lower, false)
  let kept := bare.filter fun c => c.toNat < 128 && c != ' ' && c != '_' && c != '-'
  if stripped && kept == ['c'] then "isc" else String.ofList kept

def categoryOrScriptNamed? (name : String) : Option Ranges :=
  match categoryNamed? name with
  | some s => some s
  | none => scriptNamed? name

/-- A property comes before a category or script of its name, unless a category shortens to the
    same letters. -/
def named? (cs : List Char) : Option Ranges :=
  let name := plainName cs
  if ["cf", "lc", "sc"].contains name then categoryNamed? name
  else
    match propertyNamed? name with
    | some s => some s
    | none => if otherProperties.contains name then none else categoryOrScriptNamed? name

def valued? (property value : List Char) : Option Ranges :=
  match plainName property with
  | "gc" | "generalcategory" => categoryNamed? (plainName value)
  | "sc" | "script" => scriptNamed? (plainName value)
  | "scx" | "scriptextensions" => scriptExtensionNamed? (plainName value)
  | "age" => charactersUpTo? (plainName value)
  | "gcb" | "graphemeclusterbreak" => graphemeBreakNamed? (plainName value)
  | "wb" | "wordbreak" => wordBreakNamed? (plainName value)
  | "sb" | "sentencebreak" => sentenceBreakNamed? (plainName value)
  | _ => none

end LogLayout.Character
