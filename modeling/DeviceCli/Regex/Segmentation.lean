import DeviceCli.Text.Script
import DeviceCli.Regex.Repertoire

/-!
# Classes by the way text is cut

Three rules cut a text into the characters that a reader sees, into words and into sentences. Each
puts every character into one class; a class that has a name is found by it in loose form.

* `graphemeBreak?`, `wordBreak?` and `sentenceBreak?` are the sets of the named classes.
-/

namespace DeviceCli.Regex

open DeviceCli.Text

/-- A set of code points and ranges in the written form of tables. -/
def codes (text : String) : CodeSet := readCodes [text]

/-! ## 1. Common parts -/

/-- The carriage return. -/
def returnCode : CodeSet := .single 0x0D

/-- The newline. -/
def newlineCode : CodeSet := .single 0x0A

/-- The control that joins what is beside it. -/
def zeroWidthJoiner : CodeSet := .single 0x200D

/-- The controls for skin tones. -/
def emojiModifiers : CodeSet := .range 0x1F3FB 0x1F3FF

/-- The letters that spell the flags of regions. -/
def regionalIndicators : CodeSet := .range 0x1F1E6 0x1F1FF

/-- The spacing marks. -/
def spacingMarks : CodeSet := ofCategories [⟨'M', 'c'⟩]

/-- What belongs to the character before it. -/
def extenders : CodeSet := graphemeExtend.union emojiModifiers

/-- The signs that enclose the number behind them. -/
def numberSigns : CodeSet := (listed "PCM").difference (.single 0x70F)

/-- The decimal digits, the signs in front of numbers, and one digit of another category. -/
def wordDigits : CodeSet := .unionAll [digitCodes, numberSigns, codes "66b 19da"]

/-! ## 2. Characters -/

/-- The syllables of Hangul without a final consonant, one in 28. -/
def openSyllables : CodeSet := codes "ac00-d788/1c"

/-- The class of that name among those of visible characters. -/
def graphemeBreak? (loose : String) : Option CodeSet :=
  match loose with
  | "cr" => some returnCode
  | "lf" => some newlineCode
  | "control" | "cn" =>
    let controls := (ofCategories [⟨'Z', 'l'⟩, ⟨'Z', 'p'⟩, ⟨'C', 'c'⟩, ⟨'C', 'f'⟩]).difference
      (.unionAll [returnCode, newlineCode, joinControlCodes, listed "PCM", extenders])
    some (controls.union (unassignedCodes.inter defaultIgnorable))
  | "extend" | "ex" => some (extenders.difference zeroWidthJoiner)
  | "l" => some (codes "1100-115f a960-a97c")
  | "lv" => some openSyllables
  | "lvt" => some ((codes "ac00-d7a3").difference openSyllables)
  | "prepend" | "pp" =>
    some ((listed "PCM").union
      (codes "d4e 111c2-111c3 113d1 1193f 11941 11a84-11a89 11d46 11f02"))
  | "regionalindicator" | "ri" => some regionalIndicators
  | "spacingmark" | "sm" =>
    let marks := (spacingMarks.difference extenders).union (codes "e33 eb3")
    some (marks.difference (codes ("102b-102c 1038 1062-1064 1067-106d 1083 1087-108c 108f " ++
      "109a-109c 1a61 1a63-1a64 aa7b aa7d 11720-11721")))
  | "t" => some (codes "11a8-11ff d7cb-d7fb")
  | "v" => some (codes "1160-11a7 16d63 16d67-16d6a d7b0-d7c6")
  | "zwj" => some zeroWidthJoiner
  | _ => none

/-! ## 3. Words -/

/-- The Katakana letters and the marks that go with them. -/
def katakanaCodes : CodeSet :=
  (Script.members ⟨['K', 'a', 'n', 'a']⟩).union
    (codes "3031-3035 309b-309c 30a0 30fc ff70")

/-- The letters of Hebrew. -/
def hebrewLetters : CodeSet :=
  codes ("5d0-5ea 5ef-5f2 fb1d fb1f-fb28 fb2a-fb36 fb38-fb3c fb3e fb40-fb41 fb43-fb44 " ++
    "fb46-fb4f")

/-- The characters of scripts that write no blanks, where words are found by a dictionary. -/
def dictionaryCodes : CodeSet :=
  codes ("e01-e3a e40-e4e e81-e82 e84 e86-e8a e8c-ea3 ea5 ea7-ebd ec0-ec4 ec6 ec8-ece edc-edf " ++
    "1000-103f 1050-108f 109a-109f 1780-17d3 17d7 17dc-17dd 1950-196d 1970-1974 1980-19ab " ++
    "19b0-19c9 19da 19de-19df 1a20-1a5e 1a60-1a7c 1aa0-1aad a9e0-a9ef a9fa-a9fe aa60-aac2 " ++
    "aadb-aadf 11700-1171a 1171d-1172b 1173a-1173b 1173f-11746")

/-- Signs that are a part of words like letters. -/
def letterSigns : CodeSet :=
  codes ("b8 2c2-2c5 2d2-2d7 2de-2df 2e5-2eb 2ed 2ef-2ff 55a-55c 55e 58a 5f3 70f a708-a716 " ++
    "a720-a721 a789-a78a ab5b")

/-- What belongs to the character before it in a word. -/
def wordExtend : CodeSet := (extenders.union spacingMarks).difference zeroWidthJoiner

/-- The class of that name among those of words. -/
def wordBreak? (loose : String) : Option CodeSet :=
  match loose with
  | "aletter" | "le" =>
    some ((alphabetic.union letterSigns).difference
      (.unionAll [listed "Ideo", katakanaCodes, dictionaryCodes,
        Script.members ⟨['H', 'i', 'r', 'a']⟩, wordExtend, hebrewLetters]))
  | "cr" => some returnCode
  | "doublequote" | "dq" => some (codes "22")
  | "extend" => some wordExtend
  | "extendnumlet" | "ex" => some ((ofCategories [⟨'P', 'c'⟩]).union (codes "202f"))
  | "format" | "fo" =>
    some (formatCodes.difference (.unionAll [codes "200b-200d", extenders, listed "PCM"]))
  | "hebrewletter" | "hl" => some hebrewLetters
  | "katakana" | "ka" => some katakanaCodes
  | "lf" => some newlineCode
  | "midletter" | "ml" => some (codes "3a b7 387 55f 5f4 2027 fe13 fe55 ff1a")
  | "midnum" | "mn" =>
    some (codes "2c 3b 37e 589 60c-60d 66c 7f8 2044 fe10 fe14 fe50 fe54 ff0c ff1b")
  | "midnumlet" | "mb" => some (codes "2e 2018-2019 2024 fe52 ff07 ff0e")
  | "newline" | "nl" => some (codes "b-c 85 2028-2029")
  | "numeric" | "nu" => some wordDigits
  | "regionalindicator" | "ri" => some regionalIndicators
  | "singlequote" | "sq" => some (codes "27")
  | "wsegspace" => some ((ofCategories [⟨'Z', 's'⟩]).difference (codes "a0 2007 202f"))
  | "zwj" => some zeroWidthJoiner
  | _ => none

/-! ## 4. Sentences -/

/-- The line ends that are no part of a text's encoding of lines. -/
def separatorCodes : CodeSet := codes "85 2028-2029"

/-- The full stops, which may also end an abbreviation. -/
def fullStops : CodeSet := codes "2e 2024 fe52 ff0e"

/-- The marks that end a sentence and nothing else. -/
def sentenceEnds : CodeSet := (listed "STerm").difference fullStops

/-- What belongs to the character before it in a sentence. -/
def sentenceExtend : CodeSet := .unionAll [graphemeExtend, spacingMarks, zeroWidthJoiner]

/-- The lower-case letters of scripts that begin sentences with a capital. -/
def sentenceLower : CodeSet :=
  lowercase.difference (graphemeExtend.union (codes "10d0-10fa 10fd-10ff"))

/-- The letters that begin sentences. -/
def sentenceUpper : CodeSet :=
  (uppercase.union (ofCategories [⟨'L', 't'⟩])).difference (codes "1c90-1cba 1cbd-1cbf")

/-- The class of that name among those of sentences. -/
def sentenceBreak? (loose : String) : Option CodeSet :=
  match loose with
  | "aterm" | "at" => some fullStops
  | "close" | "cl" =>
    some (((ofCategories [⟨'P', 's'⟩, ⟨'P', 'e'⟩, ⟨'P', 'i'⟩, ⟨'P', 'f'⟩]).union
      (codes "22 27 275b-2760 2e00-2e01 2e06-2e08 2e0b 1f676-1f678")).difference
        (fullStops.union sentenceEnds))
  | "cr" => some returnCode
  | "extend" | "ex" => some sentenceExtend
  | "format" | "fo" =>
    some (formatCodes.difference (.unionAll [joinControlCodes, extenders, numberSigns]))
  | "lf" => some newlineCode
  | "lower" | "lo" => some sentenceLower
  | "numeric" | "nu" => some (wordDigits.union (codes "66c"))
  | "oletter" | "le" =>
    some ((alphabetic.union (codes "5f3")).difference
      (.unionAll [sentenceLower, sentenceUpper, sentenceExtend]))
  | "scontinue" | "sc" =>
    some (codes ("2c-2d 3a-3b 37e 55d 60c-60d 7f8 1802 1808 2013-2014 3001 fe10-fe11 fe13-fe14 " ++
      "fe31-fe32 fe50-fe51 fe54-fe55 fe58 fe63 ff0c-ff0d ff1a-ff1b ff64"))
  | "sep" | "se" => some separatorCodes
  | "sp" => some (spaceCodes.difference (.unionAll [separatorCodes, returnCode, newlineCode]))
  | "sterm" | "st" => some sentenceEnds
  | "upper" | "up" => some sentenceUpper
  | _ => none

end DeviceCli.Regex
