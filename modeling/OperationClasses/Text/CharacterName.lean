/-
Module: OperationClasses.Text.CharacterName
Purpose: The names of characters.
Main exports: isCharacterName
-/
import OperationClasses.Text.CharacterName.Letters
import OperationClasses.Text.CharacterName.Pictographs
import OperationClasses.Text.CharacterName.Symbols
import OperationClasses.Text.Hexadecimal

namespace OperationClasses.Text

/-! ### Listed names -/

/-- The other names of characters, among them those of controls. -/
def otherNames : List NameFamily := [
  ⟨[], [
    "ACK,ACKNOWLEDGE,ALERT,APC,APPLICATION PROGRAM COMMAND,BACKSPACE,BEL,BOM,BPH,BREAK PERMITTED HERE",
    "BS,BYTE ORDER MARK,CAN,CANCEL,CANCEL CHARACTER,CARRIAGE RETURN,CCH,CGJ,CHARACTER TABULATION",
    "CHARACTER TABULATION SET,CHARACTER TABULATION WITH JUSTIFICATION,CONTROL SEQUENCE INTRODUCER,CR",
    "CSI,DATA LINK ESCAPE,DC1,DC2,DC3,DC4,DCS,DEL,DELETE,DEVICE CONTROL FOUR,DEVICE CONTROL ONE",
    "DEVICE CONTROL STRING,DEVICE CONTROL THREE,DEVICE CONTROL TWO,DLE,END OF GUARDED AREA,END OF LINE",
    "END OF MEDIUM,END OF PROTECTED AREA,END OF SELECTED AREA,END OF TEXT,END OF TRANSMISSION",
    "END OF TRANSMISSION BLOCK,ENQ,ENQUIRY,EOL,EOM,EOT,EPA,ESA,ESC,ESCAPE,ETB,ETX,FF,FILE SEPARATOR",
    "FORM FEED,FS,FSI,GROUP SEPARATOR,GS,HIGH OCTET PRESET,HOP,HORIZONTAL TABULATION",
    "HORIZONTAL TABULATION SET,HORIZONTAL TABULATION WITH JUSTIFICATION,HT,HTJ,HTS,IND,INDEX",
    "INFORMATION SEPARATOR FOUR,INFORMATION SEPARATOR ONE,INFORMATION SEPARATOR THREE",
    "INFORMATION SEPARATOR TWO,LF,LINE FEED,LINE TABULATION,LINE TABULATION SET,LOCKING-SHIFT ONE",
    "LOCKING-SHIFT ZERO,LRE,LRI,LRM,LRO,MESSAGE WAITING,MICR DASH SYMBOL,MICR ON US SYMBOL,MMSP,MW,NAK",
    "NBH,NBSP,NEGATIVE ACKNOWLEDGE,NEL,NEW LINE,NEXT LINE,NL,NNBSP,NO BREAK HERE,NUL,NULL",
    "OPERATING SYSTEM COMMAND,OSC,PAD,PADDING CHARACTER,PARTIAL LINE BACKWARD,PARTIAL LINE DOWN",
    "PARTIAL LINE FORWARD,PARTIAL LINE UP,PDF,PDI,PLD,PLU,PM",
    "PRESENTATION FORM FOR VERTICAL RIGHT WHITE LENTICULAR BRACKET,PRIVACY MESSAGE,PRIVATE USE ONE",
    "PRIVATE USE TWO,PRIVATE USE-1,PRIVATE USE-2,PU1,PU2,RECORD SEPARATOR,REVERSE INDEX",
    "REVERSE LINE FEED,RI,RLE,RLI,RLM,RLO,RS,SCI,SET TRANSMIT STATE,SGC,SHIFT IN,SHIFT OUT,SHY,SI",
    "SINGLE CHARACTER INTRODUCER,SINGLE GRAPHIC CHARACTER INTRODUCER,SINGLE SHIFT THREE",
    "SINGLE SHIFT TWO,SINGLE-SHIFT-2,SINGLE-SHIFT-3,SO,SOH,SOS,SP,SPA,SS2,SS3,SSA,ST",
    "START OF GUARDED AREA,START OF HEADING,START OF PROTECTED AREA,START OF SELECTED AREA",
    "START OF STRING,START OF TEXT,STRING TERMINATOR,STS,STX,SUB,SUBSTITUTE,SYN,SYNCHRONOUS IDLE,TAB",
    "UNIT SEPARATOR,US,VERTICAL TABULATION,VERTICAL TABULATION SET,VS1,VS10,VS11,VS12,VS13,VS14,VS15",
    "VS16,VS2,VS3,VS4,VS5,VS6,VS7,VS8,VS9,VT,VTS,WEIERSTRASS ELLIPTIC FUNCTION,WJ,ZWJ,ZWNBSP,ZWNJ,ZWSP"]⟩]

/-- The beginnings of the names in the scripts and sets of signs whose names are not listed. -/
def scriptNames : List String := [
  "ADLAM", "AEGEAN", "AHOM", "ALCHEMICAL", "ANATOLIAN", "ARABIC", "AVESTAN", "BALINESE", "BAMUM",
  "BASSA", "BATAK", "BENGALI", "BHAIKSUKI", "BLACK CHESS", "BLOCK", "BOPOMOFO", "BRAHMI", "BRAILLE",
  "BUGINESE", "BUHID", "BYZANTINE", "CANADIAN", "CARIAN", "CAUCASIAN", "CHAKMA", "CHAM", "CHEROKEE",
  "CHORASMIAN", "CIRCLED HANGUL", "CIRCLED IDEOGRAPH", "CIRCLED KATAKANA", "CJK",
  "COMBINING CYRILLIC LETTER", "COMBINING DEVANAGARI", "COMBINING GLAGOLITIC LETTER",
  "COMBINING GRANTHA", "COMBINING LATIN SMALL LETTER", "COPTIC", "COUNTING", "CUNEIFORM", "CYPRIOT",
  "CYPRO-MINOAN", "DESERET", "DEVANAGARI", "DIVES", "DOGRA", "DOMINO", "DUPLOYAN", "EGYPTIAN",
  "ELBASAN", "ELYMAIC", "ETHIOPIC", "EXTENDED", "GEORGIAN", "GLAGOLITIC", "GOTHIC", "GRANTHA",
  "GREEK ACROPHONIC", "GREEK INSTRUMENTAL NOTATION", "GREEK VOCAL NOTATION", "GUJARATI", "GUNJALA",
  "GURMUKHI", "HALFWIDTH HANGUL", "HANGUL", "HANIFI", "HANUNOO", "HATRAN", "HENTAIGANA", "HEXAGRAM",
  "IDEOGRAPHIC TELEGRAPH SYMBOL FOR", "IMPERIAL", "INDIC", "INSCRIPTIONAL", "JAVANESE", "KAITHI",
  "KANGXI", "KANNADA", "KAYAH", "KHAROSHTHI", "KHITAN", "KHMER", "KHOJKI", "KHUDAWADI", "LAO",
  "LEPCHA", "LIMBU", "LINEAR", "LISU", "LYCIAN", "LYDIAN", "MAHAJANI", "MAHJONG", "MAKASAR",
  "MALAYALAM", "MANDAIC", "MANICHAEAN", "MARCHEN", "MASARAM", "MATHEMATICAL", "MAYAN", "MEDEFAIDRIN",
  "MEETEI", "MENDE", "MEROITIC", "MIAO", "MODI", "MODIFIER LETTER", "MONGOLIAN", "MRO", "MULTANI",
  "MUSICAL SYMBOL", "MYANMAR", "NABATAEAN", "NANDINAGARI", "NEGATIVE CIRCLED LATIN CAPITAL LETTER",
  "NEGATIVE SQUARED LATIN CAPITAL LETTER", "NEUTRAL CHESS", "NEW TAI LUE", "NEWA", "NKO", "NUSHU",
  "NYIAKENG", "OCR", "OGHAM", "OL", "OLD HUNGARIAN", "OLD ITALIC", "OLD NORTH ARABIAN", "OLD PERMIC",
  "OLD PERSIAN", "OLD SOGDIAN", "OLD SOUTH ARABIAN", "OLD TURKIC", "OLD UYGHUR", "ORIYA", "OSAGE",
  "OSMANYA", "OTTOMAN", "PAHAWH", "PALMYRENE", "PARENTHESIZED HANGUL", "PARENTHESIZED IDEOGRAPH",
  "PARENTHESIZED LATIN CAPITAL LETTER", "PAU", "PHAGS-PA", "PHAISTOS", "PHOENICIAN", "PLAYING",
  "PSALTER", "REJANG", "RUMI", "RUNIC", "SAMARITAN", "SAURASHTRA", "SEGMENTED", "SHARADA", "SHAVIAN",
  "SIDDHAM", "SIGNWRITING", "SINHALA", "SOGDIAN", "SORA", "SOYOMBO", "SQUARED LATIN CAPITAL LETTER",
  "SUNDANESE", "SYLOTI", "SYRIAC", "TAG", "TAGALOG", "TAGBANWA", "TAI", "TAKRI", "TAMIL", "TANGSA",
  "TANGUT", "TELUGU", "TETRAGRAM", "THAANA", "THAI", "TIBETAN", "TIFINAGH", "TIRHUTA", "TORTOISE",
  "TOTO", "UGARITIC", "VAI", "VEDIC", "VITHKUQI", "WANCHO", "WARANG", "WHITE CHESS", "WIDE-HEADED",
  "XIANGQI", "YEZIDI", "YI", "ZANABAZAR", "ZNAMENNY"]

/-! ### Names made by rule -/

/-- The consonants that a syllable may begin with. -/
def syllableStarts : List String := [
  "", "G", "GG", "N", "D", "DD", "R", "M", "B", "BB", "S", "SS", "J", "JJ", "C", "K", "T", "P", "H"]

/-- The vowels of a syllable. -/
def syllableVowels : List String := [
  "A", "AE", "YA", "YAE", "EO", "E", "YEO", "YE", "O", "WA", "WAE", "OE", "YO", "U", "WEO", "WE", "WI", "YU",
  "EU", "YI", "I"]

/-- The consonants that a syllable may end with. -/
def syllableEnds : List String := [
  "", "G", "GG", "GS", "N", "NJ", "NH", "D", "L", "LG", "LM", "LB", "LS", "LT", "LP", "LH", "M", "B", "BS",
  "S", "SS", "NG", "J", "C", "K", "T", "P", "H"]

/-- Whether a text is one of these texts and then something of a kind. -/
def beginsWithOne (among : List String) (rest : List Char → Bool) (s : List Char) : Bool :=
  among.any fun a => a.toList.isPrefixOf s && rest (s.drop a.length)

/-- Whether a text spells a syllable. -/
def isSyllable (s : List Char) : Bool :=
  beginsWithOne syllableStarts
    (beginsWithOne syllableVowels fun rest => syllableEnds.contains (String.ofList rest)) s

/-- The ranges of the ideographs that are named by their numbers. -/
def numberedIdeographs : List (Nat × Nat) := [
  (0x3400, 0x4DBF), (0x4E00, 0x9FFF), (0x20000, 0x2A6DF), (0x2A700, 0x2B738), (0x2B740, 0x2B81D),
  (0x2B820, 0x2CEA1), (0x2CEB0, 0x2EBE0), (0x30000, 0x3134A)]

/-- Whether a text is the number of an ideograph: four or five digits in upper case. -/
def isIdeographNumber (s : List Char) : Bool :=
  (s.length = 4 || s.length = 5) && !(s.any Char.isLower)
    && (hexNumber? s.length s).any fun n => numberedIdeographs.any fun (low, high) => low ≤ n && n ≤ high

/-! ### Names -/

/-- Whether a text in upper case is the name of a character that is not made by rule. Names in other scripts
    than the listed ones are told by their beginnings. -/
def isListedName (name : List Char) : Bool :=
  [letterNames, symbolNames, pictographNames, otherNames].any (·.any (·.contains name))
    || scriptNames.any fun s => (NameFamily.afterBeginning? s name).any (!·.isEmpty)

/-- Whether a text is the name of a character. Only names that are made by rule have to be in upper case. -/
def isCharacterName (name : String) : Bool :=
  let chars := name.toList
  let upper := chars.map Char.toUpper
  match NameFamily.afterBeginning? "HANGUL SYLLABLE" upper with
  | some rest => chars = upper && isSyllable rest
  | none =>
    let ideograph := "CJK UNIFIED IDEOGRAPH-".toList
    if ideograph.isPrefixOf upper then chars = upper && isIdeographNumber (chars.drop ideograph.length)
    else isListedName upper

end OperationClasses.Text
