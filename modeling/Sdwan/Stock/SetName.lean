/-
The names by which a pattern may call a set of characters: the general
categories, the scripts and the yes-or-no properties of Unicode, and the
sets that a bracket expression names.

Names are compared in lower case and without blanks, hyphens, underscores
and a leading `is`.
-/
import Sdwan.Text.Blank

namespace Sdwan.Stock

/-- The names of general categories, long and short. -/
def categories : List String :=
  ["c", "other", "cc", "control", "cntrl", "cf", "format", "cn", "unassigned", "co", "privateuse",
    "cs", "surrogate", "l", "letter", "lc", "casedletter", "ll", "lowercaseletter", "lm",
    "modifierletter", "lo", "otherletter", "lt", "titlecaseletter", "lu", "uppercaseletter", "m",
    "mark", "combiningmark", "mc", "spacingmark", "me", "enclosingmark", "mn", "nonspacingmark",
    "n", "number", "nd", "decimalnumber", "digit", "nl", "letternumber", "no", "othernumber", "p",
    "punctuation", "punct", "pc", "connectorpunctuation", "pd", "dashpunctuation", "pe",
    "closepunctuation", "pf", "finalpunctuation", "pi", "initialpunctuation", "po",
    "otherpunctuation", "ps", "openpunctuation", "s", "symbol", "sc", "currencysymbol", "sk",
    "modifiersymbol", "sm", "mathsymbol", "so", "othersymbol", "z", "separator", "zl",
    "lineseparator", "zp", "paragraphseparator", "zs", "spaceseparator", "any", "assigned",
    "ascii"]

/-- The names of scripts, the long ones and the common short ones. -/
def scripts : List String :=
  ["adlam", "ahom", "anatolianhieroglyphs", "arabic", "armenian", "avestan", "balinese", "bamum",
    "bassavah", "batak", "bengali", "bhaiksuki", "bopomofo", "brahmi", "braille", "buginese",
    "buhid", "canadianaboriginal", "carian", "caucasianalbanian", "chakma", "cham", "cherokee",
    "chorasmian", "common", "coptic", "cuneiform", "cypriot", "cyprominoan", "cyrillic", "deseret",
    "devanagari", "divesakuru", "dogra", "duployan", "egyptianhieroglyphs", "elbasan", "elymaic",
    "ethiopic", "garay", "georgian", "glagolitic", "gothic", "grantha", "greek", "gujarati",
    "gunjalagondi", "gurmukhi", "gurungkhema", "han", "hangul", "hanifirohingya", "hanunoo",
    "hatran", "hebrew", "hiragana", "imperialaramaic", "inherited", "inscriptionalpahlavi",
    "inscriptionalparthian", "javanese", "kaithi", "kannada", "katakana", "kawi", "kayahli",
    "kharoshthi", "khitansmallscript", "khmer", "khojki", "khudawadi", "kiratrai", "lao", "latin",
    "lepcha", "limbu", "lineara", "linearb", "lisu", "lycian", "lydian", "mahajani", "makasar",
    "malayalam", "mandaic", "manichaean", "marchen", "masaramgondi", "medefaidrin", "meeteimayek",
    "mendekikakui", "meroiticcursive", "meroitichieroglyphs", "miao", "modi", "mongolian", "mro",
    "multani", "myanmar", "nabataean", "nagmundari", "nandinagari", "newtailue", "newa", "nko",
    "nushu", "nyiakengpuachuehmong", "ogham", "olchiki", "olonal", "oldhungarian", "olditalic",
    "oldnortharabian", "oldpermic", "oldpersian", "oldsogdian", "oldsoutharabian", "oldturkic",
    "olduyghur", "oriya", "osage", "osmanya", "pahawhhmong", "palmyrene", "paucinhau", "phagspa",
    "phoenician", "psalterpahlavi", "rejang", "runic", "samaritan", "saurashtra", "sharada",
    "shavian", "siddham", "signwriting", "sinhala", "sogdian", "sorasompeng", "soyombo",
    "sundanese", "sunuwar", "sylotinagri", "syriac", "tagalog", "tagbanwa", "taile", "taitham",
    "taiviet", "takri", "tamil", "tangsa", "tangut", "telugu", "thaana", "thai", "tibetan",
    "tifinagh", "tirhuta", "todhri", "toto", "tulutigalari", "ugaritic", "vai", "vithkuqi",
    "wancho", "warangciti", "yezidi", "yi", "zanabazarsquare", "adlm", "aghb", "arab", "armi",
    "armn", "avst", "bali", "bamu", "batk", "beng", "bopo", "brah", "brai", "cans", "cher", "copt",
    "cprt", "cyrl", "deva", "egyp", "ethi", "geor", "glag", "goth", "grek", "gujr", "guru", "hang",
    "hani", "hebr", "hira", "java", "kana", "khmr", "knda", "laoo", "latn", "limb", "linb", "mlym",
    "mong", "mymr", "nkoo", "ogam", "orya", "osma", "phnx", "runr", "samr", "sinh", "sund", "syrc",
    "taml", "telu", "thaa", "tibt", "ugar", "xpeo", "xsux", "yiii", "zinh", "zyyy", "qaac", "qaai"]

/-- The names of properties that a character has or does not have. -/
def properties : List String :=
  ["alphabetic", "alpha", "asciihexdigit", "ahex", "bidicontrol", "bidic", "bidimirrored", "bidim",
    "caseignorable", "ci", "cased", "changeswhencasefolded", "cwcf", "changeswhencasemapped",
    "cwcm", "changeswhenlowercased", "cwl", "changeswhennfkccasefolded", "cwkcf",
    "changeswhentitlecased", "cwt", "changeswhenuppercased", "cwu", "dash",
    "defaultignorablecodepoint", "di", "deprecated", "dep", "diacritic", "dia", "emoji",
    "emojicomponent", "ecomp", "emojimodifier", "emod", "emojimodifierbase", "ebase",
    "emojipresentation", "epres", "extendedpictographic", "extpict", "extender", "ext",
    "graphemebase", "grbase", "graphemeextend", "grext", "graphemelink", "grlink", "hexdigit",
    "hex", "hyphen", "idsbinaryoperator", "idsb", "idstrinaryoperator", "idst", "idcontinue",
    "idc", "idstart", "ids", "ideographic", "ideo", "joincontrol", "joinc",
    "logicalorderexception", "loe", "lowercase", "lower", "math", "noncharactercodepoint", "nchar",
    "patternsyntax", "patsyn", "patternwhitespace", "patws", "prependedconcatenationmark", "pcm",
    "quotationmark", "qmark", "radical", "regionalindicator", "ri", "sentenceterminal", "sterm",
    "softdotted", "sd", "terminalpunctuation", "term", "unifiedideograph", "uideo", "uppercase",
    "upper", "variationselector", "vs", "whitespace", "wspace", "space", "xidcontinue", "xidc",
    "xidstart", "xids"]

/-- The names of the sets in bracket expressions. -/
def bracketSets : List String :=
  ["alnum", "alpha", "ascii", "blank", "cntrl", "digit", "graph", "lower", "print", "punct",
    "space", "upper", "word", "xdigit"]

/-- A name as it is compared. -/
def looseName (cs : List Char) : String :=
  let plain := (cs.filter fun c => !(c == ' ' || c == '_' || c == '-')).map Text.lowerAscii
  String.ofList
    (if plain != "isc".toList then (Text.afterPrefix? ['i', 's'] plain).getD plain else plain)

/-- Whether a name alone is known. -/
def isSetName (cs : List Char) : Bool :=
  let name := looseName cs
  name ∈ properties || name ∈ categories || name ∈ scripts

/-- Whether a value of a property is known. -/
def isSetValue (property value : List Char) : Bool :=
  let name := looseName value
  match looseName property with
  | "gc" | "generalcategory" => name ∈ categories
  | "sc" | "script" | "scx" | "scriptextensions" => name ∈ scripts
  | _ => false

end Sdwan.Stock
