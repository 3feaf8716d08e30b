import PostalAddress.Text.Age
import PostalAddress.Text.Segment

/-!
# Property queries

The sets of characters that a query such as `Lu`, `greek`, `sc=Greek` or `age:6.0` names. A query
without a value names a property that is true or false of a character, a general category or a
script; before `=`, `:` or `!=` stands the name of a property with values.
-/

namespace PostalAddress.Text.Property

/-- Names are compared by their ASCII letters, digits and marks, without spaces, hyphens, low
lines, case and a leading `is`. -/
def looseName (t : List Char) : List Char :=
  let body := match t with
    | i :: s :: r => if i.toLower = 'i' && s.toLower = 's' then r else t
    | _ => t
  let name := (body.filter fun c => isAscii c && c != ' ' && c != '_' && c != '-').map Char.toLower
  if name = ['c'] && body.length < t.length then "isc".toList else name

def isNamed (names : List String) (name : List Char) : Bool :=
  names.any fun n => looseName n.toList = name

/-- The set of the first entry with a name. -/
def named? (entries : List (List String × CodeSet)) (name : List Char) : Option CodeSet :=
  (entries.find? fun (names, _) => isNamed names name).map (·.2)

/-- The properties that are true or false of a character. -/
def flags : List (List String × CodeSet) :=
  [(["AHex", "ASCII_Hex_Digit"], Listed.asciiHexDigit), (["Alpha", "Alphabetic"], alphabetic),
   (["Bidi_C", "Bidi_Control"], Listed.bidiControl), (["Cased"], cased),
   (["CI", "Case_Ignorable"], caseIgnorable),
   (["CWCF", "Changes_When_Casefolded"], changesWhenFolded),
   (["CWCM", "Changes_When_Casemapped"], changesWhenMapped),
   (["CWL", "Changes_When_Lowercased"], changesWhenLowered),
   (["CWT", "Changes_When_Titlecased"], changesWhenTitled),
   (["CWU", "Changes_When_Uppercased"], changesWhenUppered), (["Dash"], Listed.dash),
   (["DI", "Default_Ignorable_Code_Point"], defaultIgnorable),
   (["Dep", "Deprecated"], Listed.deprecated), (["Dia", "Diacritic"], Listed.diacritic),
   (["EBase", "Emoji_Modifier_Base"], Listed.emojiModifierBase),
   (["EComp", "Emoji_Component"], Listed.emojiComponent),
   (["EMod", "Emoji_Modifier"], Listed.emojiModifier), (["Emoji"], Listed.emoji),
   (["EPres", "Emoji_Presentation"], Listed.emojiPresentation),
   (["Ext", "Extender"], Listed.extender),
   (["ExtPict", "Extended_Pictographic"], Listed.extendedPictographic),
   (["Gr_Base", "Grapheme_Base"], graphemeBase), (["Gr_Ext", "Grapheme_Extend"], graphemeExtend),
   (["Gr_Link", "Grapheme_Link"], Listed.graphemeLink), (["Hex", "Hex_Digit"], Listed.hexDigit),
   (["Hyphen"], Listed.hyphen), (["IDC", "ID_Continue"], idContinue),
   (["ID_Compat_Math_Continue"], Listed.idCompatMathContinue),
   (["ID_Compat_Math_Start"], Listed.idCompatMathStart), (["IDS", "ID_Start"], idStart),
   (["IDSB", "IDS_Binary_Operator"], Listed.idsBinaryOperator),
   (["IDST", "IDS_Trinary_Operator"], Listed.idsTrinaryOperator),
   (["IDSU", "IDS_Unary_Operator"], Listed.idsUnaryOperator),
   (["Ideo", "Ideographic"], Listed.ideographic), (["Join_C", "Join_Control"], Listed.joinControl),
   (["LOE", "Logical_Order_Exception"], Listed.logicalOrderException),
   (["Lower", "Lowercase"], lowercase), (["Math"], math),
   (["MCM", "Modifier_Combining_Mark"], Listed.modifierCombiningMark),
   (["NChar", "Noncharacter_Code_Point"], Listed.noncharacter),
   (["OAlpha", "Other_Alphabetic"], Listed.otherAlphabetic),
   (["ODI", "Other_Default_Ignorable_Code_Point"], Listed.otherDefaultIgnorable),
   (["OGr_Ext", "Other_Grapheme_Extend"], Listed.otherGraphemeExtend),
   (["OIDC", "Other_ID_Continue"], Listed.otherIdContinue),
   (["OIDS", "Other_ID_Start"], Listed.otherIdStart),
   (["OLower", "Other_Lowercase"], Listed.otherLowercase),
   (["OMath", "Other_Math"], Listed.otherMath),
   (["OUpper", "Other_Uppercase"], Listed.otherUppercase),
   (["Pat_Syn", "Pattern_Syntax"], Listed.patternSyntax),
   (["Pat_WS", "Pattern_White_Space"], Listed.patternWhiteSpace),
   (["PCM", "Prepended_Concatenation_Mark"], Listed.prependedConcatenationMark),
   (["QMark", "Quotation_Mark"], Listed.quotationMark), (["Radical"], Listed.radical),
   (["RI", "Regional_Indicator"], Listed.regionalIndicator),
   (["SD", "Soft_Dotted"], Listed.softDotted),
   (["STerm", "Sentence_Terminal"], Listed.sentenceTerminal),
   (["Term", "Terminal_Punctuation"], Listed.terminalPunctuation),
   (["UIdeo", "Unified_Ideograph"], Listed.unifiedIdeograph),
   (["Upper", "Uppercase"], uppercase), (["VS", "Variation_Selector"], Listed.variationSelector),
   (["WSpace", "White_Space", "space"], Listed.whiteSpace), (["XIDC", "XID_Continue"], xidContinue),
   (["XIDS", "XID_Start"], xidStart)]

/-- The general categories and their groups: names, and the codes of what they hold. -/
def categories : List (List String × List String) :=
  [(["C", "Other"], ["C"]), (["Cc", "Control", "cntrl"], ["Cc"]), (["Cf", "Format"], ["Cf"]),
   (["Cn", "Unassigned"], ["Cn"]), (["Co", "Private_Use"], ["Co"]), (["L", "Letter"], ["L"]),
   (["LC", "Cased_Letter"], ["Ll", "Lt", "Lu"]), (["Ll", "Lowercase_Letter"], ["Ll"]),
   (["Lm", "Modifier_Letter"], ["Lm"]), (["Lo", "Other_Letter"], ["Lo"]),
   (["Lt", "Titlecase_Letter"], ["Lt"]), (["Lu", "Uppercase_Letter"], ["Lu"]),
   (["M", "Mark", "Combining_Mark"], ["M"]), (["Mc", "Spacing_Mark"], ["Mc"]),
   (["Me", "Enclosing_Mark"], ["Me"]), (["Mn", "Nonspacing_Mark"], ["Mn"]),
   (["N", "Number"], ["N"]), (["Nd", "Decimal_Number", "digit"], ["Nd"]),
   (["Nl", "Letter_Number"], ["Nl"]), (["No", "Other_Number"], ["No"]),
   (["P", "Punctuation", "punct"], ["P"]), (["Pc", "Connector_Punctuation"], ["Pc"]),
   (["Pd", "Dash_Punctuation"], ["Pd"]), (["Pe", "Close_Punctuation"], ["Pe"]),
   (["Pf", "Final_Punctuation"], ["Pf"]), (["Pi", "Initial_Punctuation"], ["Pi"]),
   (["Po", "Other_Punctuation"], ["Po"]), (["Ps", "Open_Punctuation"], ["Ps"]),
   (["S", "Symbol"], ["S"]), (["Sc", "Currency_Symbol"], ["Sc"]),
   (["Sk", "Modifier_Symbol"], ["Sk"]), (["Sm", "Math_Symbol"], ["Sm"]),
   (["So", "Other_Symbol"], ["So"]), (["Z", "Separator"], ["Z"]),
   (["Zl", "Line_Separator"], ["Zl"]), (["Zp", "Paragraph_Separator"], ["Zp"]),
   (["Zs", "Space_Separator"], ["Zs"])]

def category? (name : List Char) : Option CodeSet :=
  if name = "any".toList then some .full
  else if name = "assigned".toList then some (Category.among ["Cn"]).compl
  else if name = "ascii".toList then some (.range 0 127)
  else (categories.find? fun (names, _) => isNamed names name).map fun (_, codes) =>
    Category.among codes

/-- The code of the script with a name. -/
def scriptCode? (name : List Char) : Option (List Char) :=
  (Script.names.find? fun ns => ns.any (looseName · = name)).bind List.head?

/-- The code points of a version, written `6.0` or `V6_0`, and of those before it. -/
def age? (name : List Char) : Option CodeSet :=
  (Age.versions.findIdx? fun v =>
    v.toList = name || 'v' :: v.toList.filter (· != '.') = name).map Age.upTo

/-- The set of a property with values. -/
def withValue? (kind value : List Char) : Option CodeSet :=
  if isNamed ["gc", "General_Category"] kind then category? value
  else if isNamed ["sc", "Script"] kind then (scriptCode? value).map Script.having
  else if isNamed ["scx", "Script_Extensions"] kind then (scriptCode? value).map Script.usedIn
  else if isNamed ["age"] kind then age? value
  else if isNamed ["GCB", "Grapheme_Cluster_Break"] kind then named? Segment.grapheme value
  else if isNamed ["WB", "Word_Break"] kind then named? Segment.word value
  else if isNamed ["SB", "Sentence_Break"] kind then named? Segment.sentence value
  else none

/-- The parts of a query before and after the first `!=`. -/
def splitUnequal : List Char → Option (List Char × List Char)
  | [] => none
  | '!' :: '=' :: r => some ([], r)
  | c :: r => (splitUnequal r).map fun (a, b) => (c :: a, b)

/-- The set that a query names; `!=` is read as `=`. -/
def query? (query : List Char) : Option CodeSet :=
  match splitUnequal query <|> splitOnce ':' query <|> splitOnce '=' query with
  | some (kind, value) => withValue? (looseName kind) (looseName value)
  | none =>
    let name := looseName query
    named? flags name <|> category? name <|> (scriptCode? name).map Script.having

end PostalAddress.Text.Property
