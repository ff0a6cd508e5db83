/-
  This file tabulates the names of character properties, each
  in lower case and without blanks, hyphens and underscores.

  Key definitions include:
    * `posixNames`
    * `categoryNames`
    * `scriptNames`
    * `binaryNames`
    * `blockNames`
-/

namespace TextMate

namespace Oniguruma

/- The classes of POSIX and those beside them. -/
def posixNames : List String :=
  ["alnum", "alpha", "ascii", "blank", "cntrl", "digit",
    "graph", "lower", "newline", "posixpunct", "print",
    "punct", "space", "upper", "word", "xdigit"]

/- The general categories and the sets of all characters. -/
def categoryNames : List String :=
  ["any", "assigned", "c", "casedletter", "cc", "cf",
    "closepunctuation", "cn", "co", "combiningmark",
    "connectorpunctuation", "control", "cs",
    "currencysymbol", "dashpunctuation", "decimalnumber",
    "enclosingmark", "finalpunctuation", "format",
    "initialpunctuation", "l", "lc", "letter",
    "letternumber", "lineseparator", "ll", "lm", "lo",
    "lowercaseletter", "lt", "lu", "m", "mark",
    "mathsymbol", "mc", "me", "mn", "modifierletter",
    "modifiersymbol", "n", "nd", "nl", "no",
    "nonspacingmark", "number", "openpunctuation", "other",
    "otherletter", "othernumber", "otherpunctuation",
    "othersymbol", "p", "paragraphseparator", "pc", "pd",
    "pe", "pf", "pi", "po", "privateuse", "ps",
    "punctuation", "s", "sc", "separator", "sk", "sm", "so",
    "spaceseparator", "spacingmark", "surrogate", "symbol",
    "titlecaseletter", "unassigned", "uppercaseletter", "z",
    "zl", "zp", "zs"]

/- The scripts, by name and by code. -/
def scriptNames : List String :=
  ["adlam", "adlm", "aghb", "ahom", "anatolianhieroglyphs",
    "arab", "arabic", "armenian", "armi", "armn", "avestan",
    "avst", "bali", "balinese", "bamu", "bamum", "bass",
    "bassavah", "batak", "batk", "beng", "bengali",
    "bhaiksuki", "bhks", "bopo", "bopomofo", "brah",
    "brahmi", "brai", "braille", "bugi", "buginese", "buhd",
    "buhid", "cakm", "canadianaboriginal", "cans", "cari",
    "carian", "caucasianalbanian", "chakma", "cham", "cher",
    "cherokee", "chorasmian", "chrs", "common", "copt",
    "coptic", "cpmn", "cprt", "cuneiform", "cypriot",
    "cyprominoan", "cyrillic", "cyrl", "deseret", "deva",
    "devanagari", "diak", "divesakuru", "dogr", "dogra",
    "dsrt", "dupl", "duployan", "egyp",
    "egyptianhieroglyphs", "elba", "elbasan", "elym",
    "elymaic", "ethi", "ethiopic", "gara", "garay", "geor",
    "georgian", "glag", "glagolitic", "gong", "gonm",
    "goth", "gothic", "gran", "grantha", "greek", "grek",
    "gujarati", "gujr", "gukh", "gunjalagondi", "gurmukhi",
    "guru", "gurungkhema", "han", "hang", "hangul", "hani",
    "hanifirohingya", "hano", "hanunoo", "hatr", "hatran",
    "hebr", "hebrew", "hira", "hiragana", "hluw", "hmng",
    "hmnp", "hung", "imperialaramaic", "inherited",
    "inscriptionalpahlavi", "inscriptionalparthian", "ital",
    "java", "javanese", "kaithi", "kali", "kana", "kannada",
    "katakana", "kawi", "kayahli", "khar", "kharoshthi",
    "khitansmallscript", "khmer", "khmr", "khoj", "khojki",
    "khudawadi", "kiratrai", "kits", "knda", "krai", "kthi",
    "lana", "lao", "laoo", "latin", "latn", "lepc",
    "lepcha", "limb", "limbu", "lina", "linb", "lineara",
    "linearb", "lisu", "lyci", "lycian", "lydi", "lydian",
    "mahajani", "mahj", "maka", "makasar", "malayalam",
    "mand", "mandaic", "mani", "manichaean", "marc",
    "marchen", "masaramgondi", "medefaidrin", "medf",
    "meeteimayek", "mend", "mendekikakui", "merc", "mero",
    "meroiticcursive", "meroitichieroglyphs", "miao",
    "mlym", "modi", "mong", "mongolian", "mro", "mroo",
    "mtei", "mult", "multani", "myanmar", "mymr",
    "nabataean", "nagm", "nagmundari", "nand",
    "nandinagari", "narb", "nbat", "newa", "newtailue",
    "nko", "nkoo", "nshu", "nushu", "nyiakengpuachuehmong",
    "ogam", "ogham", "olchiki", "olck", "oldhungarian",
    "olditalic", "oldnortharabian", "oldpermic",
    "oldpersian", "oldsogdian", "oldsoutharabian",
    "oldturkic", "olduyghur", "olonal", "onao", "oriya",
    "orkh", "orya", "osage", "osge", "osma", "osmanya",
    "ougr", "pahawhhmong", "palm", "palmyrene", "pauc",
    "paucinhau", "perm", "phag", "phagspa", "phli", "phlp",
    "phnx", "phoenician", "plrd", "prti", "psalterpahlavi",
    "qaac", "qaai", "rejang", "rjng", "rohg", "runic",
    "runr", "samaritan", "samr", "sarb", "saur",
    "saurashtra", "sgnw", "sharada", "shavian", "shaw",
    "shrd", "sidd", "siddham", "signwriting", "sind",
    "sinh", "sinhala", "sogd", "sogdian", "sogo", "sora",
    "sorasompeng", "soyo", "soyombo", "sund", "sundanese",
    "sunu", "sunuwar", "sylo", "sylotinagri", "syrc",
    "syriac", "tagalog", "tagb", "tagbanwa", "taile",
    "taitham", "taiviet", "takr", "takri", "tale", "talu",
    "tamil", "taml", "tang", "tangsa", "tangut", "tavt",
    "telu", "telugu", "tfng", "tglg", "thaa", "thaana",
    "thai", "tibetan", "tibt", "tifinagh", "tirh",
    "tirhuta", "tnsa", "todhri", "todr", "toto",
    "tulutigalari", "tutg", "ugar", "ugaritic", "unknown",
    "vai", "vaii", "vith", "vithkuqi", "wancho", "wara",
    "warangciti", "wcho", "xpeo", "xsux", "yezi", "yezidi",
    "yi", "yiii", "zanabazarsquare", "zanb", "zinh", "zyyy",
    "zzzz"]

/- The properties that a character has or lacks. -/
def binaryNames : List String :=
  ["ahex", "alpha", "alphabetic", "asciihexdigit", "bidic",
    "bidicontrol", "cased", "caseignorable",
    "changeswhencasefolded", "changeswhencasemapped",
    "changeswhenlowercased", "changeswhentitlecased",
    "changeswhenuppercased", "ci", "cwcf", "cwcm", "cwl",
    "cwt", "cwu", "dash", "defaultignorablecodepoint",
    "dep", "deprecated", "di", "dia", "diacritic", "ebase",
    "ecomp", "emod", "emoji", "emojicomponent",
    "emojimodifier", "emojimodifierbase",
    "emojipresentation", "epres", "ext",
    "extendedpictographic", "extender", "extpict",
    "graphemebase", "graphemeextend", "graphemelink",
    "grbase", "grext", "grlink", "hex", "hexdigit",
    "hyphen", "idc", "idcompatmathcontinue",
    "idcompatmathstart", "idcontinue", "ideo",
    "ideographic", "ids", "idsb", "idsbinaryoperator",
    "idst", "idstart", "idstrinaryoperator", "idsu",
    "idsunaryoperator", "incb", "joinc", "joincontrol", "loe",
    "logicalorderexception", "lower", "lowercase", "math",
    "mcm", "modifiercombiningmark", "nchar",
    "noncharactercodepoint", "oalpha", "odi", "ogrext",
    "oidc", "oids", "olower", "omath", "otheralphabetic",
    "otherdefaultignorablecodepoint", "othergraphemeextend",
    "otheridcontinue", "otheridstart", "otherlowercase",
    "othermath", "otheruppercase", "oupper", "patsyn",
    "patternsyntax", "patternwhitespace", "patws", "pcm",
    "prependedconcatenationmark", "qmark", "quotationmark",
    "radical", "regionalindicator", "ri", "sd",
    "sentenceterminal", "softdotted", "space", "sterm",
    "term", "terminalpunctuation", "uideo",
    "unifiedideograph", "upper", "uppercase",
    "variationselector", "vs", "whitespace", "wspace",
    "xidc", "xidcontinue", "xids", "xidstart"]

/- The blocks of code points. -/
def blockNames : List String :=
  ["inadlam", "inaegeannumbers", "inahom",
    "inalchemicalsymbols", "inalphabeticpresentationforms",
    "inanatolianhieroglyphs",
    "inancientgreekmusicalnotation",
    "inancientgreeknumbers", "inancientsymbols", "inarabic",
    "inarabicextendeda", "inarabicextendedb",
    "inarabicextendedc",
    "inarabicmathematicalalphabeticsymbols",
    "inarabicpresentationformsa",
    "inarabicpresentationformsb", "inarabicsupplement",
    "inarmenian", "inarrows", "inavestan", "inbalinese",
    "inbamum", "inbamumsupplement", "inbasiclatin",
    "inbassavah", "inbatak", "inbengali", "inbhaiksuki",
    "inblockelements", "inbopomofo", "inbopomofoextended",
    "inboxdrawing", "inbrahmi", "inbraillepatterns",
    "inbuginese", "inbuhid", "inbyzantinemusicalsymbols",
    "incarian", "incaucasianalbanian", "inchakma", "incham",
    "incherokee", "incherokeesupplement", "inchesssymbols",
    "inchorasmian", "incjkcompatibility",
    "incjkcompatibilityforms",
    "incjkcompatibilityideographs",
    "incjkcompatibilityideographssupplement",
    "incjkradicalssupplement", "incjkstrokes",
    "incjksymbolsandpunctuation", "incjkunifiedideographs",
    "incjkunifiedideographsextensiona",
    "incjkunifiedideographsextensionb",
    "incjkunifiedideographsextensionc",
    "incjkunifiedideographsextensiond",
    "incjkunifiedideographsextensione",
    "incjkunifiedideographsextensionf",
    "incjkunifiedideographsextensiong",
    "incjkunifiedideographsextensionh",
    "incjkunifiedideographsextensioni",
    "incombiningdiacriticalmarks",
    "incombiningdiacriticalmarksextended",
    "incombiningdiacriticalmarksforsymbols",
    "incombiningdiacriticalmarkssupplement",
    "incombininghalfmarks", "incommonindicnumberforms",
    "incontrolpictures", "incoptic", "incopticepactnumbers",
    "incountingrodnumerals", "incuneiform",
    "incuneiformnumbersandpunctuation", "incurrencysymbols",
    "incypriotsyllabary", "incyprominoan", "incyrillic",
    "incyrillicextendeda", "incyrillicextendedb",
    "incyrillicextendedc", "incyrillicextendedd",
    "incyrillicsupplement", "indeseret", "indevanagari",
    "indevanagariextended", "indevanagariextendeda",
    "indingbats", "indivesakuru", "indogra",
    "indominotiles", "induployan",
    "inearlydynasticcuneiform",
    "inegyptianhieroglyphformatcontrols",
    "inegyptianhieroglyphs",
    "inegyptianhieroglyphsextendeda", "inelbasan",
    "inelymaic", "inemoticons", "inenclosedalphanumerics",
    "inenclosedalphanumericsupplement",
    "inenclosedcjklettersandmonths",
    "inenclosedideographicsupplement", "inethiopic",
    "inethiopicextended", "inethiopicextendeda",
    "inethiopicextendedb", "inethiopicsupplement",
    "ingaray", "ingeneralpunctuation", "ingeometricshapes",
    "ingeometricshapesextended", "ingeorgian",
    "ingeorgianextended", "ingeorgiansupplement",
    "inglagolitic", "inglagoliticsupplement", "ingothic",
    "ingrantha", "ingreekandcoptic", "ingreekextended",
    "ingujarati", "ingunjalagondi", "ingurmukhi",
    "ingurungkhema", "inhalfwidthandfullwidthforms",
    "inhangulcompatibilityjamo", "inhanguljamo",
    "inhanguljamoextendeda", "inhanguljamoextendedb",
    "inhangulsyllables", "inhanifirohingya", "inhanunoo",
    "inhatran", "inhebrew", "inhighprivateusesurrogates",
    "inhighsurrogates", "inhiragana",
    "inideographicdescriptioncharacters",
    "inideographicsymbolsandpunctuation",
    "inimperialaramaic", "inindicsiyaqnumbers",
    "ininscriptionalpahlavi", "ininscriptionalparthian",
    "inipaextensions", "injavanese", "inkaithi",
    "inkaktoviknumerals", "inkanaextendeda",
    "inkanaextendedb", "inkanasupplement", "inkanbun",
    "inkangxiradicals", "inkannada", "inkatakana",
    "inkatakanaphoneticextensions", "inkawi", "inkayahli",
    "inkharoshthi", "inkhitansmallscript", "inkhmer",
    "inkhmersymbols", "inkhojki", "inkhudawadi",
    "inkiratrai", "inlao", "inlatin1supplement",
    "inlatinextendeda", "inlatinextendedadditional",
    "inlatinextendedb", "inlatinextendedc",
    "inlatinextendedd", "inlatinextendede",
    "inlatinextendedf", "inlatinextendedg", "inlepcha",
    "inletterlikesymbols", "inlimbu", "inlineara",
    "inlinearbideograms", "inlinearbsyllabary", "inlisu",
    "inlisusupplement", "inlowsurrogates", "inlycian",
    "inlydian", "inmahajani", "inmahjongtiles", "inmakasar",
    "inmalayalam", "inmandaic", "inmanichaean", "inmarchen",
    "inmasaramgondi", "inmathematicalalphanumericsymbols",
    "inmathematicaloperators", "inmayannumerals",
    "inmedefaidrin", "inmeeteimayek",
    "inmeeteimayekextensions", "inmendekikakui",
    "inmeroiticcursive", "inmeroitichieroglyphs", "inmiao",
    "inmiscellaneousmathematicalsymbolsa",
    "inmiscellaneousmathematicalsymbolsb",
    "inmiscellaneoussymbols",
    "inmiscellaneoussymbolsandarrows",
    "inmiscellaneoussymbolsandpictographs",
    "inmiscellaneoustechnical", "inmodi",
    "inmodifiertoneletters", "inmongolian",
    "inmongoliansupplement", "inmro", "inmultani",
    "inmusicalsymbols", "inmyanmar", "inmyanmarextendeda",
    "inmyanmarextendedb", "inmyanmarextendedc",
    "innabataean", "innagmundari", "innandinagari",
    "innewa", "innewtailue", "innko", "innoblock",
    "innumberforms", "innushu", "innyiakengpuachuehmong",
    "inogham", "inolchiki", "inoldhungarian", "inolditalic",
    "inoldnortharabian", "inoldpermic", "inoldpersian",
    "inoldsogdian", "inoldsoutharabian", "inoldturkic",
    "inolduyghur", "inolonal",
    "inopticalcharacterrecognition", "inoriya",
    "inornamentaldingbats", "inosage", "inosmanya",
    "inottomansiyaqnumbers", "inpahawhhmong", "inpalmyrene",
    "inpaucinhau", "inphagspa", "inphaistosdisc",
    "inphoenician", "inphoneticextensions",
    "inphoneticextensionssupplement", "inplayingcards",
    "inprivateusearea", "inpsalterpahlavi", "inrejang",
    "inruminumeralsymbols", "inrunic", "insamaritan",
    "insaurashtra", "insharada", "inshavian",
    "inshorthandformatcontrols", "insiddham", "insinhala",
    "insinhalaarchaicnumbers", "insmallformvariants",
    "insmallkanaextension", "insogdian", "insorasompeng",
    "insoyombo", "inspacingmodifierletters", "inspecials",
    "insundanese", "insundanesesupplement", "insunuwar",
    "insuperscriptsandsubscripts", "insupplementalarrowsa",
    "insupplementalarrowsb", "insupplementalarrowsc",
    "insupplementalmathematicaloperators",
    "insupplementalpunctuation",
    "insupplementalsymbolsandpictographs",
    "insupplementaryprivateuseareaa",
    "insupplementaryprivateuseareab", "insuttonsignwriting",
    "insylotinagri", "insymbolsandpictographsextendeda",
    "insymbolsforlegacycomputing",
    "insymbolsforlegacycomputingsupplement", "insyriac",
    "insyriacsupplement", "intagalog", "intagbanwa",
    "intags", "intaile", "intaitham", "intaiviet",
    "intaixuanjingsymbols", "intakri", "intamil",
    "intamilsupplement", "intangsa", "intangut",
    "intangutcomponents", "intangutsupplement", "intelugu",
    "inthaana", "inthai", "intibetan", "intifinagh",
    "intirhuta", "intodhri", "intoto",
    "intransportandmapsymbols", "intulutigalari",
    "inugaritic", "inunifiedcanadianaboriginalsyllabics",
    "inunifiedcanadianaboriginalsyllabicsextended",
    "inunifiedcanadianaboriginalsyllabicsextendeda",
    "invai", "invariationselectors",
    "invariationselectorssupplement", "invedicextensions",
    "inverticalforms", "invithkuqi", "inwancho",
    "inwarangciti", "inyezidi", "inyijinghexagramsymbols",
    "inyiradicals", "inyisyllables", "inzanabazarsquare",
    "inznamennymusicalnotation"]

end Oniguruma

end TextMate
