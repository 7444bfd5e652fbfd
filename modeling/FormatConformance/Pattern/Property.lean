import FormatConformance.Pattern.NamedSet

/-!
# Properties of characters

The properties of the character standard that a pattern can name, with their short and long names:
the general categories, the properties that a character has or has not, the scripts, the versions of
the standard since which a character exists, and the kinds of character at which text is broken.
Names are spelled here in lower case and without separators (`canonicalName`). A property is taken
by its ASCII members; one without any is the empty set.
-/

namespace FormatConformance.CharSet

/-- Sets by their names. -/
abbrev Table := List (List String × CharSet)

/-- The set of a name in a table. -/
def Table.find? (table : Table) (name : String) : Option CharSet :=
  (List.find? (fun row => row.1.contains name) table).map (·.2)

/-! ## General categories -/

/-- The symbols of mathematics. -/
def mathSymbols : CharSet :=
  ofList ['+', '<', '=', '>', '|', '~']

/-- The symbols that stand for a modification. -/
def modifierSymbols : CharSet :=
  ofList ['^', '\x60']

/-- The symbol of a currency. -/
def currencySymbols : CharSet :=
  singleton '$'

/-- All symbols. -/
def symbols : CharSet :=
  (mathSymbols.union modifierSymbols).union currencySymbols

/-- The signs that are no symbols. -/
def punctuation : CharSet :=
  signs.diff symbols

/-- Opening brackets. -/
def openings : CharSet :=
  ofList ['(', '[', '\x7b']

/-- Closing brackets. -/
def closings : CharSet :=
  ofList [')', ']', '\x7d']

/-- The general categories and their unions. There is none for surrogates, which are no
characters. -/
def categories : Table :=
  [(["any"], empty.complement), (["ascii"], ascii), (["assigned"], ascii),
    (["l", "letter"], allLetters), (["lc", "casedletter"], allLetters),
    (["lu", "uppercaseletter"], capitals), (["ll", "lowercaseletter"], smallLetters),
    (["lt", "titlecaseletter"], empty), (["lm", "modifierletter"], empty),
    (["lo", "otherletter"], empty), (["m", "mark", "combiningmark"], empty),
    (["mn", "nonspacingmark"], empty), (["mc", "spacingmark"], empty),
    (["me", "enclosingmark"], empty), (["n", "number"], digits),
    (["nd", "decimalnumber", "digit"], digits), (["nl", "letternumber"], empty),
    (["no", "othernumber"], empty), (["p", "punctuation", "punct"], punctuation),
    (["pc", "connectorpunctuation"], singleton '_'), (["pd", "dashpunctuation"], singleton '-'),
    (["ps", "openpunctuation"], openings), (["pe", "closepunctuation"], closings),
    (["pi", "initialpunctuation"], empty), (["pf", "finalpunctuation"], empty),
    (["po", "otherpunctuation"],
      punctuation.diff ((ofList ['_', '-']).union (openings.union closings))),
    (["s", "symbol"], symbols), (["sm", "mathsymbol"], mathSymbols),
    (["sc", "currencysymbol"], currencySymbols), (["sk", "modifiersymbol"], modifierSymbols),
    (["so", "othersymbol"], empty), (["z", "separator"], singleton ' '),
    (["zs", "spaceseparator"], singleton ' '), (["zl", "lineseparator"], empty),
    (["zp", "paragraphseparator"], empty), (["c", "other"], controls),
    (["cc", "control", "cntrl"], controls), (["cf", "format"], empty),
    (["cn", "unassigned"], empty), (["co", "privateuse"], empty)]

/-! ## Properties that a character has or has not -/

/-- The binary properties with ASCII members. -/
def binaryProperties : Table :=
  [(["alphabetic", "alpha"], allLetters), (["asciihexdigit", "ahex"], hexDigits),
    (["bidimirrored", "bidim"], (openings.union closings).union (ofList ['<', '>'])),
    (["caseignorable", "ci"], (ofList ['\'', '.', ':']).union modifierSymbols),
    (["cased"], allLetters), (["changeswhencasefolded", "cwcf"], capitals),
    (["changeswhencasemapped", "cwcm"], allLetters), (["changeswhenlowercased", "cwl"], capitals),
    (["changeswhentitlecased", "cwt"], smallLetters),
    (["changeswhenuppercased", "cwu"], smallLetters), (["dash"], singleton '-'),
    (["diacritic", "dia"], modifierSymbols), (["emoji"], digits.union (ofList ['#', '*'])),
    (["emojicomponent", "ecomp"], digits.union (ofList ['#', '*'])),
    (["graphemebase", "grbase"], range ' ' '~'), (["hexdigit", "hex"], hexDigits),
    (["hyphen"], singleton '-'), (["idcontinue", "idc"], wordChars),
    (["idstart", "ids"], allLetters),
    (["lowercase", "lower"], smallLetters), (["math"], (singleton '^').union mathSymbols),
    (["othermath", "omath"], singleton '^'),
    (["patternsyntax", "patsyn"], signs.diff (singleton '_')),
    (["patternwhitespace", "patws"], spaces), (["quotationmark", "qmark"], ofList ['"', '\'']),
    (["sentenceterminal", "sterm"], ofList ['!', '.', '?']),
    (["softdotted", "sd"], ofList ['i', 'j']),
    (["terminalpunctuation", "term"], ofList ['!', ',', '.', ':', ';', '?']),
    (["uppercase", "upper"], capitals), (["whitespace", "wspace", "space"], spaces),
    (["xidcontinue", "xidc"], wordChars), (["xidstart", "xids"], allLetters)]

/-- The names of the binary properties without ASCII members. -/
def binaryNamesBeyondAscii : List String :=
  ["bidicontrol", "bidic", "defaultignorablecodepoint", "di", "deprecated", "dep", "emojimodifier",
    "emod", "emojimodifierbase", "ebase", "emojipresentation", "epres", "extendedpictographic",
    "extpict", "extender", "ext", "graphemeextend", "grext", "graphemelink", "grlink",
    "idsbinaryoperator", "idsb", "idstrinaryoperator", "idst", "idsunaryoperator", "idsu",
    "idcompatmathcontinue", "idcompatmathstart", "ideographic", "ideo", "joincontrol", "joinc",
    "logicalorderexception", "loe", "modifiercombiningmark", "mcm", "noncharactercodepoint",
    "nchar", "otheralphabetic", "oalpha", "otherdefaultignorablecodepoint", "odi",
    "othergraphemeextend", "ogrext", "otheridcontinue", "oidc", "otheridstart", "oids",
    "otherlowercase", "olower", "otheruppercase", "oupper", "prependedconcatenationmark", "pcm",
    "radical", "regionalindicator", "ri", "unifiedideograph", "uideo", "variationselector", "vs"]

/-! ## Scripts, versions and breaks -/

/-- The scripts with ASCII members: the letters are Latin, and all else belongs to no script of its
own. -/
def scripts : Table :=
  [(["latin", "latn"], allLetters), (["common", "zyyy"], ascii.diff allLetters)]

/-- The names of the scripts without ASCII members. -/
def scriptNamesBeyondAscii : List String :=
    ["adlam", "adlm", "ahom", "anatolianhieroglyphs", "hluw", "arabic", "arab", "armenian", "armn",
     "avestan", "avst", "balinese", "bali", "bamum", "bamu", "bassavah", "bass", "batak", "batk",
     "bengali", "beng", "bhaiksuki", "bhks", "bopomofo", "bopo", "brahmi", "brah", "braille",
     "brai", "buginese", "bugi", "buhid", "buhd", "canadianaboriginal", "cans", "carian", "cari",
     "caucasianalbanian", "aghb", "chakma", "cakm", "cham", "cherokee", "cher", "chorasmian",
     "chrs", "coptic", "copt", "qaac", "cuneiform", "xsux", "cypriot", "cprt", "cyprominoan",
     "cpmn", "cyrillic", "cyrl", "deseret", "dsrt", "devanagari", "deva", "divesakuru", "diak",
     "dogra", "dogr", "duployan", "dupl", "egyptianhieroglyphs", "egyp", "elbasan", "elba",
     "elymaic", "elym", "ethiopic", "ethi", "garay", "gara", "georgian", "geor", "glagolitic",
     "glag", "gothic", "goth", "grantha", "gran", "greek", "grek", "gujarati", "gujr",
     "gunjalagondi", "gong", "gurmukhi", "guru", "gurungkhema", "gukh", "han", "hani", "hangul",
     "hang", "hanifirohingya", "rohg", "hanunoo", "hano", "hatran", "hatr", "hebrew", "hebr",
     "hiragana", "hira", "imperialaramaic", "armi", "inherited", "zinh", "qaai",
     "inscriptionalpahlavi", "phli", "inscriptionalparthian", "prti", "javanese", "java", "kaithi",
     "kthi", "kannada", "knda", "katakana", "kana", "kawi", "kayahli", "kali", "kharoshthi", "khar",
     "khitansmallscript", "kits", "khmer", "khmr", "khojki", "khoj", "khudawadi", "sind",
     "kiratrai", "krai", "lao", "laoo", "lepcha", "lepc", "limbu", "limb", "lineara", "lina",
     "linearb", "linb", "lisu", "lycian", "lyci", "lydian", "lydi", "mahajani", "mahj", "makasar",
     "maka", "malayalam", "mlym", "mandaic", "mand", "manichaean", "mani", "marchen", "marc",
     "masaramgondi", "gonm", "medefaidrin", "medf", "meeteimayek", "mtei", "mendekikakui", "mend",
     "meroiticcursive", "merc", "meroitichieroglyphs", "mero", "miao", "plrd", "modi", "mongolian",
     "mong", "mro", "mroo", "multani", "mult", "myanmar", "mymr", "nabataean", "nbat", "nagmundari",
     "nagm", "nandinagari", "nand", "newa", "newtailue", "talu", "nko", "nkoo", "nushu", "nshu",
     "nyiakengpuachuehmong", "hmnp", "ogham", "ogam", "olchiki", "olck", "oldhungarian", "hung",
     "olditalic", "ital", "oldnortharabian", "narb", "oldpermic", "perm", "oldpersian", "xpeo",
     "oldsogdian", "sogo", "oldsoutharabian", "sarb", "oldturkic", "orkh", "olduyghur", "ougr",
     "olonal", "onao", "oriya", "orya", "osage", "osge", "osmanya", "osma", "pahawhhmong", "hmng",
     "palmyrene", "palm", "paucinhau", "pauc", "phagspa", "phag", "phoenician", "phnx",
     "psalterpahlavi", "phlp", "rejang", "rjng", "runic", "runr", "samaritan", "samr", "saurashtra",
     "saur", "sharada", "shrd", "shavian", "shaw", "siddham", "sidd", "signwriting", "sgnw",
     "sinhala", "sinh", "sogdian", "sogd", "sorasompeng", "sora", "soyombo", "soyo", "sundanese",
     "sund", "sunuwar", "sunu", "sylotinagri", "sylo", "syriac", "syrc", "tagalog", "tglg",
     "tagbanwa", "tagb", "taile", "tale", "taitham", "lana", "taiviet", "tavt", "takri", "takr",
     "tamil", "taml", "tangsa", "tnsa", "tangut", "tang", "telugu", "telu", "thaana", "thaa",
     "thai", "tibetan", "tibt", "tifinagh", "tfng", "tirhuta", "tirh", "todhri", "todr", "toto",
     "tulutigalari", "tutg", "ugaritic", "ugar", "vai", "vaii", "vithkuqi", "vith", "wancho",
     "wcho", "warangciti", "wara", "yezidi", "yezi", "yi", "yiii", "zanabazarsquare", "zanb"]

/-- The versions of the standard that brought new characters. -/
def versions : List (Nat × Nat) :=
  [(1, 1), (2, 0), (2, 1), (3, 0), (3, 1), (3, 2), (4, 0), (4, 1), (5, 0), (5, 1), (5, 2), (6, 0),
    (6, 1), (6, 2), (6, 3), (7, 0), (8, 0), (9, 0), (10, 0), (11, 0), (12, 0), (12, 1), (13, 0),
    (14, 0), (15, 0), (15, 1), (16, 0)]

/-- The names of a version: its number, or its digits behind a letter. -/
def versionNames (version : Nat × Nat) : List String :=
  [toString version.1 ++ "." ++ toString version.2,
    "v" ++ toString version.1 ++ toString version.2]

/-- The kinds of character at the breaks between what a reader sees as one character. -/
def graphemeBreaks : Table :=
  [(["cn", "control"], controls.diff (ofList ['\r', '\n'])), (["cr"], singleton '\r'),
    (["lf"], singleton '\n'), (["ex", "extend"], empty), (["l"], empty), (["lv"], empty),
    (["lvt"], empty), (["pp", "prepend"], empty), (["ri", "regionalindicator"], empty),
    (["sm", "spacingmark"], empty), (["t"], empty), (["v"], empty), (["zwj"], empty)]

/-- The kinds of character at the breaks between words. -/
def wordBreaks : Table :=
  [(["le", "aletter"], allLetters), (["cr"], singleton '\r'),
    (["dq", "doublequote"], singleton '"'), (["extend"], empty),
    (["ex", "extendnumlet"], singleton '_'), (["fo", "format"], empty),
    (["hl", "hebrewletter"], empty), (["ka", "katakana"], empty), (["lf"], singleton '\n'),
    (["ml", "midletter"], singleton ':'), (["mn", "midnum"], ofList [',', ';']),
    (["mb", "midnumlet"], singleton '.'), (["nl", "newline"], range '\x0b' '\x0c'),
    (["nu", "numeric"], digits), (["ri", "regionalindicator"], empty),
    (["sq", "singlequote"], singleton '\''), (["wsegspace"], singleton ' '), (["zwj"], empty)]

/-- The kinds of character at the breaks between sentences. -/
def sentenceBreaks : Table :=
  [(["at", "aterm"], singleton '.'), (["cr"], singleton '\r'),
    (["cl", "close"], (openings.union closings).union (ofList ['"', '\''])),
    (["ex", "extend"], empty), (["fo", "format"], empty), (["lf"], singleton '\n'),
    (["lo", "lower"], smallLetters), (["nu", "numeric"], digits), (["le", "oletter"], empty),
    (["sc", "scontinue"], ofList [',', '-', ':', ';']), (["st", "sterm"], ofList ['!', '?']),
    (["se", "sep"], empty), (["sp"], ofList ['\t', '\x0b', '\x0c', ' ']),
    (["up", "upper"], capitals)]

/-! ## Looking up -/

/-- A name as tables have it: what is not ASCII does not count, nor do separators, and a leading
`is` is dropped. That the rest is the one letter `c` is an exception. -/
def canonicalName (name : List Char) : String :=
  let bare (name : List Char) :=
    (name.filter fun c => c.toNat < 0x80 && !(c = ' ' || c = '_' || c = '-')).map Char.toLower
  match name with
  | first :: second :: rest =>
    if first.toLower = 'i' && second.toLower = 's' then
      if bare rest = ['c'] then "isc" else String.ofList (bare rest)
    else String.ofList (bare name)
  | _ => String.ofList (bare name)

/-- The set of a script. -/
def script? (name : String) : Option CharSet :=
  if scriptNamesBeyondAscii.contains name then some empty else scripts.find? name

/-- The set of a binary property. -/
def binary? (name : String) : Option CharSet :=
  if binaryNamesBeyondAscii.contains name then some empty else binaryProperties.find? name

/-- The characters of a version of the standard. All of ASCII was in the first. -/
def version? (name : String) : Option CharSet :=
  if versions.any fun version => (versionNames version).contains name then some ascii else none

/-- The set of a value of a property that has values. -/
def valued? (key name : String) : Option CharSet :=
  match key with
  | "gc" => categories.find? name
  | "generalcategory" => categories.find? name
  | "sc" => script? name
  | "script" => script? name
  | "scx" => script? name
  | "scriptextensions" => script? name
  | "age" => version? name
  | "gcb" => graphemeBreaks.find? name
  | "graphemeclusterbreak" => graphemeBreaks.find? name
  | "wb" => wordBreaks.find? name
  | "wordbreak" => wordBreaks.find? name
  | "sb" => sentenceBreaks.find? name
  | "sentencebreak" => sentenceBreaks.find? name
  | _ => none

/-- The set of a property with a key, or without one. -/
def property? (key : Option (List Char)) (name : List Char) : Option CharSet :=
  let name := canonicalName name
  match key with
  | some key => valued? (canonicalName key) name
  | none => binary? name <|> categories.find? name <|> script? name

end FormatConformance.CharSet
