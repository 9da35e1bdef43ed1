import DeviceCli.Text.Age
import DeviceCli.Text.Category
import DeviceCli.Text.PropertyTable

/-!
# What patterns know of characters

Patterns go by version 16.0 of the character database: a character of a later version is a code
point that is not assigned.

* `inCategories` is the set of the characters of some general categories;
* `wordCodes`, `digitCodes` and `spaceCodes` are the classes with letters of their own;
* `trait?` is the set of the characters with a property that a character has or lacks.
-/

namespace DeviceCli.Regex

open DeviceCli.Text

/-! ## 1. General categories -/

/-- The characters that patterns do not know yet. -/
def laterCodes : CodeSet := codesSince "17.0"

/-- The characters whose general category passes a test. -/
def inCategories (p : Category → Bool) : CodeSet :=
  let s := Category.members p
  if p Category.unassigned then s.union laterCodes else s.difference laterCodes

/-- The characters of one of some general categories. -/
def ofCategories (list : List Category) : CodeSet := inCategories list.contains

/-- The letters. -/
def letterCodes : CodeSet := inCategories (·.group == 'L')

/-- The marks that are not counted as spacing. -/
def flatMarkCodes : CodeSet := ofCategories [⟨'M', 'n'⟩, ⟨'M', 'e'⟩]

/-- The format controls. -/
def formatCodes : CodeSet := ofCategories [⟨'C', 'f'⟩]

/-- The code points without a character. -/
def unassignedCodes : CodeSet := ofCategories [Category.unassigned]

/-- The ASCII characters. -/
def asciiCodes : CodeSet := .range 0 127

/-! ## 2. Classes with a letter of their own -/

/-- The set of a property that is given by a list. -/
def listed (property : String) : CodeSet := readCodes ((propertyText.lookup property).getD [])

/-- The two controls that join letters. -/
def joinControlCodes : CodeSet := .range 0x200C 0x200D

/-- Letters, letter numbers, and the marks and symbols that count as letters. -/
def alphabetic : CodeSet := alphabeticCodes.difference laterCodes

/-- The decimal digits. -/
def digitCodes : CodeSet := ofCategories [⟨'N', 'd'⟩]

/-- The white space. -/
def spaceCodes : CodeSet :=
  .ofRanges [⟨9, 13⟩, ⟨0x20, 0x20⟩, ⟨0x85, 0x85⟩, ⟨0xA0, 0xA0⟩, ⟨0x1680, 0x1680⟩, ⟨0x2000, 0x200A⟩,
    ⟨0x2028, 0x2029⟩, ⟨0x202F, 0x202F⟩, ⟨0x205F, 0x205F⟩, ⟨0x3000, 0x3000⟩]

/-- The word characters: alphabetic, marks, decimal digits, connecting punctuation and the two
    joining controls. -/
def wordCodes : CodeSet :=
  .unionAll [alphabetic, inCategories (·.group == 'M'), digitCodes, ofCategories [⟨'P', 'c'⟩],
    joinControlCodes]

/-! ## 3. Properties that a character has or lacks -/

/-- Lower-case letters and what counts as such. -/
def lowercase : CodeSet := (ofCategories [⟨'L', 'l'⟩]).union (listed "OLower")

/-- Upper-case letters and what counts as such. -/
def uppercase : CodeSet := (ofCategories [⟨'L', 'u'⟩]).union (listed "OUpper")

/-- The characters that have a case: lower case, upper case or title case. -/
def cased : CodeSet := .unionAll [lowercase, uppercase, ofCategories [⟨'L', 't'⟩]]

/-- Punctuation that stands between the letters of a word. -/
def wordInnerPunctuation : CodeSet :=
  .ofRanges [⟨0x27, 0x27⟩, ⟨0x2E, 0x2E⟩, ⟨0x3A, 0x3A⟩, ⟨0xB7, 0xB7⟩, ⟨0x387, 0x387⟩, ⟨0x55F, 0x55F⟩,
    ⟨0x5F4, 0x5F4⟩, ⟨0x2018, 0x2019⟩, ⟨0x2024, 0x2024⟩, ⟨0x2027, 0x2027⟩, ⟨0xFE13, 0xFE13⟩,
    ⟨0xFE52, 0xFE52⟩, ⟨0xFE55, 0xFE55⟩, ⟨0xFF07, 0xFF07⟩, ⟨0xFF0E, 0xFF0E⟩, ⟨0xFF1A, 0xFF1A⟩]

/-- The characters that are passed over when a word is looked at for its case. -/
def caseIgnorable : CodeSet :=
  .unionAll [flatMarkCodes, formatCodes, ofCategories [⟨'L', 'm'⟩, ⟨'S', 'k'⟩],
    wordInnerPunctuation]

/-- The marks and other characters that extend the one before them. -/
def graphemeExtend : CodeSet := flatMarkCodes.union (listed "OGr_Ext")

/-- The characters that may carry such an extension. -/
def graphemeBase : CodeSet :=
  (inCategories fun k => !(k.group == 'C' || k == ⟨'Z', 'l'⟩ || k == ⟨'Z', 'p'⟩)).difference
    graphemeExtend

/-- The characters that show nothing where they are not understood. -/
def defaultIgnorable : CodeSet :=
  (CodeSet.unionAll [listed "ODI", formatCodes, listed "VS"]).difference
    (.unionAll [spaceCodes, .range 0xFFF9 0xFFFB, .range 0x13430 0x13440, listed "PCM"])

/-- Syntax and white space of patterns, which are no part of names. -/
def patternParts : CodeSet := (listed "Pat_Syn").union (listed "Pat_WS")

/-- The characters that names begin with. -/
def idStart : CodeSet :=
  (CodeSet.unionAll [letterCodes, ofCategories [⟨'N', 'l'⟩], listed "OIDS"]).difference patternParts

/-- The characters that names go on with. -/
def idContinue : CodeSet :=
  (CodeSet.unionAll [idStart,
    ofCategories [⟨'M', 'n'⟩, ⟨'M', 'c'⟩, ⟨'N', 'd'⟩, ⟨'P', 'c'⟩], listed "OIDC"]).difference
      patternParts

/-- The characters of names that compatibility composition would turn into something else. -/
def unstableNameCodes : CodeSet :=
  .ofRanges [⟨0x37A, 0x37A⟩, ⟨0x309B, 0x309C⟩, ⟨0xFC5E, 0xFC63⟩, ⟨0xFDFA, 0xFDFB⟩, ⟨0xFE70, 0xFE70⟩,
    ⟨0xFE72, 0xFE72⟩, ⟨0xFE74, 0xFE74⟩, ⟨0xFE76, 0xFE76⟩, ⟨0xFE78, 0xFE78⟩, ⟨0xFE7A, 0xFE7A⟩,
    ⟨0xFE7C, 0xFE7C⟩, ⟨0xFE7E, 0xFE7E⟩]

/-- Those that would then no longer begin a name. -/
def unstableStartCodes : CodeSet :=
  .ofRanges [⟨0xE33, 0xE33⟩, ⟨0xEB3, 0xEB3⟩, ⟨0xFF9E, 0xFF9F⟩]

/-- The code points that will never be characters: the last two of each plane and 32 others. -/
def noncharacters : CodeSet :=
  .ofRanges (⟨0xFDD0, 0xFDEF⟩ ::
    (List.range 17).map fun plane => ⟨plane * 0x10000 + 0xFFFE, plane * 0x10000 + 0xFFFF⟩)

/-- The ASCII characters that write hexadecimal numbers. -/
def asciiHexDigits : CodeSet := .ofRanges [⟨0x30, 0x39⟩, ⟨0x41, 0x46⟩, ⟨0x61, 0x66⟩]

/-- The characters with a property, by its name in loose form. -/
def trait? (loose : String) : Option CodeSet :=
  match loose with
  | "asciihexdigit" | "ahex" => some asciiHexDigits
  | "alphabetic" | "alpha" => some alphabetic
  | "bidicontrol" | "bidic" => some (listed "Bidi_C")
  | "bidimirrored" | "bidim" => some (listed "Bidi_M")
  | "caseignorable" | "ci" => some caseIgnorable
  | "cased" => some cased
  | "changeswhencasefolded" | "cwcf" => some (listed "CWCF")
  | "changeswhencasemapped" | "cwcm" =>
      some (.unionAll [listed "CWL", listed "CWT", listed "CWU"])
  | "changeswhenlowercased" | "cwl" => some (listed "CWL")
  | "changeswhentitlecased" | "cwt" => some (listed "CWT")
  | "changeswhenuppercased" | "cwu" => some (listed "CWU")
  | "dash" => some (listed "Dash")
  | "defaultignorablecodepoint" | "di" => some defaultIgnorable
  | "deprecated" | "dep" => some (listed "Dep")
  | "diacritic" | "dia" => some (listed "Dia")
  | "emoji" => some (listed "Emoji")
  | "emojicomponent" | "ecomp" => some (listed "EComp")
  | "emojimodifier" | "emod" => some (.range 0x1F3FB 0x1F3FF)
  | "emojimodifierbase" | "ebase" => some (listed "EBase")
  | "emojipresentation" | "epres" => some (listed "EPres")
  | "extendedpictographic" | "extpict" => some (listed "ExtPict")
  | "extender" | "ext" => some (listed "Ext")
  | "graphemebase" | "grbase" => some graphemeBase
  | "graphemeextend" | "grext" => some graphemeExtend
  | "graphemelink" | "grlink" => some (listed "Gr_Link")
  | "hexdigit" | "hex" =>
      some (asciiHexDigits.union
        (.ofRanges [⟨0xFF10, 0xFF19⟩, ⟨0xFF21, 0xFF26⟩, ⟨0xFF41, 0xFF46⟩]))
  | "hyphen" => some (listed "Hyphen")
  | "idcompatmathcontinue" => some (listed "ID_Compat_Math_Continue")
  | "idcompatmathstart" => some (listed "ID_Compat_Math_Start")
  | "idcontinue" | "idc" => some idContinue
  | "idstart" | "ids" => some idStart
  | "idsbinaryoperator" | "idsb" => some (listed "IDSB")
  | "idstrinaryoperator" | "idst" => some (listed "IDST")
  | "idsunaryoperator" | "idsu" => some (listed "IDSU")
  | "ideographic" | "ideo" => some (listed "Ideo")
  | "joincontrol" | "joinc" => some joinControlCodes
  | "logicalorderexception" | "loe" => some (listed "LOE")
  | "lowercase" | "lower" => some lowercase
  | "math" => some ((ofCategories [⟨'S', 'm'⟩]).union (listed "OMath"))
  | "modifiercombiningmark" | "mcm" => some (listed "MCM")
  | "noncharactercodepoint" | "nchar" => some noncharacters
  | "otheralphabetic" | "oalpha" =>
      some ((alphabetic.difference letterCodes).difference (ofCategories [⟨'N', 'l'⟩]))
  | "otherdefaultignorablecodepoint" | "odi" => some (listed "ODI")
  | "othergraphemeextend" | "ogrext" => some (listed "OGr_Ext")
  | "otheridcontinue" | "oidc" => some (listed "OIDC")
  | "otheridstart" | "oids" => some (listed "OIDS")
  | "otherlowercase" | "olower" => some (listed "OLower")
  | "othermath" | "omath" => some (listed "OMath")
  | "otheruppercase" | "oupper" => some (listed "OUpper")
  | "patternsyntax" | "patsyn" => some (listed "Pat_Syn")
  | "patternwhitespace" | "patws" => some (listed "Pat_WS")
  | "prependedconcatenationmark" | "pcm" => some (listed "PCM")
  | "quotationmark" | "qmark" => some (listed "QMark")
  | "radical" => some (listed "Radical")
  | "regionalindicator" | "ri" => some (.range 0x1F1E6 0x1F1FF)
  | "sentenceterminal" | "sterm" => some (listed "STerm")
  | "softdotted" | "sd" => some (listed "SD")
  | "terminalpunctuation" | "term" => some (listed "Term")
  | "unifiedideograph" | "uideo" => some (listed "UIdeo")
  | "uppercase" | "upper" => some uppercase
  | "variationselector" | "vs" => some (listed "VS")
  | "whitespace" | "wspace" | "space" => some spaceCodes
  | "xidcontinue" | "xidc" => some (idContinue.difference unstableNameCodes)
  | "xidstart" | "xids" =>
      some ((idStart.difference unstableNameCodes).difference unstableStartCodes)
  | _ => none

end DeviceCli.Regex
