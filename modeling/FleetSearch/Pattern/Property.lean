import FleetSearch.Pattern.Charset

/-! The names of classes of characters. Case, blanks, hyphens and underscores in them do not
count, nor does `is` at the start. -/

namespace FleetSearch.Pattern

/-- A name without what does not count in it. -/
def looseName (name : String) : String :=
  let chars := name.toList
  let (isMarked, chars) := match chars with
    | a :: b :: rest =>
      if (a == 'i' || a == 'I') && (b == 's' || b == 'S') then (true, rest) else (false, chars)
    | _ => (false, chars)
  let plain := (chars.filter fun c =>
    !(c == ' ' || c == '_' || c == '-' || 0x80 ≤ c.toNat)).map Char.toLower
  String.ofList (if isMarked && plain == ['c'] then ['i', 's', 'c'] else plain)

def categories? (name : String) : Option (List Unicode.Category) :=
  match name with
  | "lu" | "uppercaseletter" => some [.uppercaseLetter]
  | "ll" | "lowercaseletter" => some [.lowercaseLetter]
  | "lt" | "titlecaseletter" => some [.titlecaseLetter]
  | "lc" | "casedletter" => some [.uppercaseLetter, .lowercaseLetter, .titlecaseLetter]
  | "lm" | "modifierletter" => some [.modifierLetter]
  | "lo" | "otherletter" => some [.otherLetter]
  | "l" | "letter" =>
    some [.uppercaseLetter, .lowercaseLetter, .titlecaseLetter, .modifierLetter, .otherLetter]
  | "mn" | "nonspacingmark" => some [.nonspacingMark]
  | "mc" | "spacingmark" => some [.spacingMark]
  | "me" | "enclosingmark" => some [.enclosingMark]
  | "m" | "mark" | "combiningmark" => some [.nonspacingMark, .spacingMark, .enclosingMark]
  | "nd" | "decimalnumber" | "digit" => some [.decimalNumber]
  | "nl" | "letternumber" => some [.letterNumber]
  | "no" | "othernumber" => some [.otherNumber]
  | "n" | "number" => some [.decimalNumber, .letterNumber, .otherNumber]
  | "pc" | "connectorpunctuation" => some [.connectorPunctuation]
  | "pd" | "dashpunctuation" => some [.dashPunctuation]
  | "ps" | "openpunctuation" => some [.openPunctuation]
  | "pe" | "closepunctuation" => some [.closePunctuation]
  | "pi" | "initialpunctuation" => some [.initialPunctuation]
  | "pf" | "finalpunctuation" => some [.finalPunctuation]
  | "po" | "otherpunctuation" => some [.otherPunctuation]
  | "p" | "punctuation" | "punct" =>
    some [.connectorPunctuation, .dashPunctuation, .openPunctuation, .closePunctuation,
      .initialPunctuation, .finalPunctuation, .otherPunctuation]
  | "sm" | "mathsymbol" => some [.mathSymbol]
  | "sc" | "currencysymbol" => some [.currencySymbol]
  | "sk" | "modifiersymbol" => some [.modifierSymbol]
  | "so" | "othersymbol" => some [.otherSymbol]
  | "s" | "symbol" => some [.mathSymbol, .currencySymbol, .modifierSymbol, .otherSymbol]
  | "zs" | "spaceseparator" => some [.spaceSeparator]
  | "zl" | "lineseparator" => some [.lineSeparator]
  | "zp" | "paragraphseparator" => some [.paragraphSeparator]
  | "z" | "separator" => some [.spaceSeparator, .lineSeparator, .paragraphSeparator]
  | "cc" | "control" | "cntrl" => some [.control]
  | "cf" | "format" => some [.format]
  | "co" | "privateuse" => some [.privateUse]
  | "cn" | "unassigned" => some [.unassigned]
  | "c" | "other" => some [.control, .format, .privateUse, .surrogate, .unassigned]
  | _ => none

/-- The set of a general category, or one of the sets that count as such. -/
def categorySet? (name : String) : Option Charset :=
  match name with
  | "any" => some .every
  | "ascii" => some (.range '\x00' '\x7f')
  | "assigned" => some (.complement (.named (.categories [.unassigned])))
  | _ => (categories? name).map fun members => .named (.categories members)

def scriptSet? (name : String) : Option Charset :=
  let found := Unicode.scriptNames.find? fun (code, full) =>
    looseName code == name || looseName full == name
  match found with
  | some (code, _) => some (.named (.script code))
  | none =>
    if name = "qaac" then some (.named (.script "Copt"))
    else if name = "qaai" then some (.named (.script "Zinh"))
    else none

def asciiHexDigits : Charset :=
  .unions [.range '0' '9', .range 'a' 'f', .range 'A' 'F']

def rangesSet (ranges : List (Nat × Nat)) : Charset :=
  .unions (ranges.map fun (first, last) => .range (Char.ofNat first) (Char.ofNat last))

def categoriesSet (members : List Unicode.Category) : Charset :=
  .named (.categories members)

def traitSet (name : String) : Charset := .named (.trait name)

def nameStarts : Charset :=
  .difference
    (.unions [categoriesSet [.uppercaseLetter, .lowercaseLetter, .titlecaseLetter, .modifierLetter,
      .otherLetter, .letterNumber], traitSet "Other_ID_Start"])
    (.union (traitSet "Pattern_Syntax") (traitSet "Pattern_White_Space"))

def nameParts : Charset :=
  .unions [nameStarts, traitSet "Other_ID_Continue",
    categoriesSet [.nonspacingMark, .spacingMark, .decimalNumber, .connectorPunctuation]]

/-- Parts of names whose normal form is no part of a name. -/
def unstableParts : Charset :=
  rangesSet [(0x37a, 0x37a), (0x309b, 0x309c), (0xfc5e, 0xfc63), (0xfdfa, 0xfdfb), (0xfe70, 0xfe70),
    (0xfe72, 0xfe72), (0xfe74, 0xfe74), (0xfe76, 0xfe76), (0xfe78, 0xfe78), (0xfe7a, 0xfe7a),
    (0xfe7c, 0xfe7c), (0xfe7e, 0xfe7e)]

/-- Letters of Thai and Lao and marks of Kana whose normal form starts with no start of a name. -/
def unstableStarts : Charset :=
  rangesSet [(0xe33, 0xe33), (0xeb3, 0xeb3), (0xff9e, 0xff9f)]

/-- The capital letters of Cherokee, to which its small letters fold. -/
def cherokeeCapitals : Charset := .range '\u13a0' '\u13f5'

/-- Letters that are capital, also at the start of a word. -/
def capitals : Charset :=
  .union (.named .uppercase) (categoriesSet [.titlecaseLetter])

/-- The capital letter whose lower case has a dot above as a mark of its own. -/
def dottedCapital : Charset := .single '\u0130'

def lowered : Charset :=
  .intersection capitals (.unions [.named .folded, cherokeeCapitals, dottedCapital])

def titled : Charset :=
  .union (rangesSet [(0x1c4, 0x1c4), (0x1c7, 0x1c7), (0x1ca, 0x1ca), (0x1f1, 0x1f1)])
    (.difference (.named .raised)
      (.union (categoriesSet [.titlecaseLetter]) (rangesSet [(0x10d0, 0x10fa), (0x10fd, 0x10ff)])))

/-- Characters that fold to several: letters with marks, and ligatures. -/
def foldedToSeveral : Charset :=
  .union dottedCapital
    (rangesSet [(0xdf, 0xdf), (0x149, 0x149), (0x587, 0x587), (0x1e9a, 0x1e9a), (0x1f80, 0x1f87),
      (0x1f90, 0x1f97), (0x1fa0, 0x1fa7), (0x1fb2, 0x1fb4), (0x1fb7, 0x1fb7), (0x1fc2, 0x1fc4),
      (0x1fc7, 0x1fc7), (0x1ff2, 0x1ff4), (0x1ff7, 0x1ff7), (0xfb00, 0xfb06), (0xfb13, 0xfb17)])

/-- What folding changes, into one character or several. The sign of an iota behind a letter is only
another writing of the small iota and does not count. -/
def foldedFully : Charset :=
  .difference (.union (.named .folded) foldedToSeveral) (.single '\u1fbe')

/-- Characters that are not to be seen where they are not supported. -/
def ignorable : Charset :=
  .difference
    (.unions [traitSet "Other_Default_Ignorable_Code_Point", categoriesSet [.format],
      traitSet "Variation_Selector"])
    (.unions [traitSet "Prepended_Concatenation_Mark", .range '\ufff9' '\ufffb',
      rangesSet [(0x13430, 0x1343f)]])

/-- Characters that stand by themselves and not upon others. -/
def graphemeBases : Charset :=
  .complement (.union (.named .extender)
    (categoriesSet [.control, .format, .surrogate, .privateUse, .unassigned, .lineSeparator,
      .paragraphSeparator]))

/-- Marks and signs that do not end the change of case within a word. -/
def caseIgnorable : Charset :=
  .unions [
    categoriesSet [.nonspacingMark, .enclosingMark, .format, .modifierLetter, .modifierSymbol],
    rangesSet [(0x27, 0x27), (0x2e, 0x2e), (0x3a, 0x3a), (0xb7, 0xb7), (0x387, 0x387),
      (0x55f, 0x55f), (0x5f4, 0x5f4), (0x2018, 0x2019), (0x2024, 0x2024), (0x2027, 0x2027),
      (0xfe13, 0xfe13), (0xfe52, 0xfe52), (0xfe55, 0xfe55), (0xff07, 0xff07), (0xff0e, 0xff0e),
      (0xff1a, 0xff1a)]]

def traitSet? (name : String) : Option Charset :=
  (Unicode.traits.find? fun candidate => (candidate.names.map looseName).contains name).bind
    fun candidate => candidate.names.head?.map traitSet

def binarySet? (name : String) : Option Charset :=
  match name with
  | "alphabetic" | "alpha" => some (.named .alphabetic)
  | "lowercase" | "lower" => some (.named .lowercase)
  | "uppercase" | "upper" => some (.named .uppercase)
  | "whitespace" | "wspace" | "space" => some (.named .space)
  | "asciihexdigit" | "ahex" => some asciiHexDigits
  | "hexdigit" | "hex" =>
    some (.unions [asciiHexDigits, .range '\uff10' '\uff19', .range '\uff21' '\uff26',
      .range '\uff41' '\uff46'])
  | "joincontrol" | "joinc" => some (.range '\u200c' '\u200d')
  | "idstart" | "ids" => some nameStarts
  | "idcontinue" | "idc" => some nameParts
  | "xidstart" | "xids" => some (.difference nameStarts (.union unstableParts unstableStarts))
  | "xidcontinue" | "xidc" => some (.difference nameParts unstableParts)
  | "cased" => some (.union (.named .lowercase) capitals)
  | "caseignorable" | "ci" => some caseIgnorable
  | "changeswhenlowercased" | "cwl" => some lowered
  | "changeswhenuppercased" | "cwu" => some (.named .raised)
  | "changeswhentitlecased" | "cwt" => some titled
  | "changeswhencasefolded" | "cwcf" => some foldedFully
  | "changeswhencasemapped" | "cwcm" => some (.unions [lowered, .named .raised, titled])
  | "defaultignorablecodepoint" | "di" => some ignorable
  | "graphemebase" | "grbase" => some graphemeBases
  | "graphemeextend" | "grext" => some (.named .extender)
  | "math" => some (.union (categoriesSet [.mathSymbol]) (traitSet "Other_Math"))
  | "otheralphabetic" | "oalpha" => some (rangesSet Unicode.alphabeticRanges)
  | "otherlowercase" | "olower" => some (rangesSet Unicode.lowercaseRanges)
  | "otheruppercase" | "oupper" => some (rangesSet Unicode.uppercaseRanges)
  | _ => traitSet? name

def propertySet? (name : String) : Option Charset :=
  let loose := looseName name
  binarySet? loose <|> categorySet? loose <|> scriptSet? loose

def propertyValueSet? (property value : String) : Option Charset :=
  match looseName property with
  | "gc" | "generalcategory" => categorySet? (looseName value)
  | "sc" | "script" | "scx" | "scriptextensions" => scriptSet? (looseName value)
  | _ => none

def asciiSet? (name : String) : Option Charset :=
  match name with
  | "alnum" => some (.unions [.range '0' '9', .range 'A' 'Z', .range 'a' 'z'])
  | "alpha" => some (.unions [.range 'A' 'Z', .range 'a' 'z'])
  | "ascii" => some (.range '\x00' '\x7f')
  | "blank" => some (.unions [.single '\t', .single ' '])
  | "cntrl" => some (.unions [.range '\x00' '\x1f', .single '\x7f'])
  | "digit" => some (.range '0' '9')
  | "graph" => some (.range '!' '~')
  | "lower" => some (.range 'a' 'z')
  | "print" => some (.range ' ' '~')
  | "punct" => some (.unions [.range '!' '/', .range ':' '@', .range '[' '\x60', .range '\x7b' '~'])
  | "space" => some (.unions [.range '\t' '\r', .single ' '])
  | "upper" => some (.range 'A' 'Z')
  | "word" => some (.unions [.range '0' '9', .range 'A' 'Z', .single '_', .range 'a' 'z'])
  | "xdigit" => some asciiHexDigits
  | _ => none

end FleetSearch.Pattern
