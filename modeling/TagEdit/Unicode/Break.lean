import TagEdit.Unicode.Property

/-!
# Segments of texts

The classes by which a text is cut into clusters of letters, words and
sentences. A class that is derived from categories and properties is computed
here; the others come from tables. `cluster?`, `word?` and `sentence?` resolve
the names of the classes.
-/

namespace TagEdit.Unicode.Break

open Category

/-- The sign that joins the characters around it into one. -/
def joiner : CharSet := CharSet.single 0x200d

/-- The characters that the Arabic, Syriac and Kaithi scripts write around a number. -/
def numberMark : CharSet := CharSet.decode "600-605 6dd 890-891 8e2 110bd 110cd"

/-! ## Clusters of letters -/

def clusterControl : CharSet := CharSet.decode
  "0-9 b-c e-1f 7f-9f ad 61c 180e 200b 200e-200f 2028-202e 2060-206f feff fff0-fffb 13430-1343f
  1bca0-1bca3 1d173-1d17a e0000-e001f e0080-e00ff e01f0-e0fff"

/-- What always stays with the character in front. -/
def clusterExtend : CharSet :=
  (Property.graphemeExtend.union Property.emojiModifier).diff joiner

def clusterPrepend : CharSet := CharSet.decode
  "600-605 6dd 70f 890-891 8e2 d4e 110bd 110cd 111c2-111c3 113d1 1193f 11941 11a3a 11a84-11a89
  11d46 11f02"

/-- The vowel signs that stand in a place of their own but stay with the letter in front. -/
def clusterSpacingMark : CharSet :=
  ((spacingMark.set.union (CharSet.decode "e33 eb3")).diff clusterExtend).diff (CharSet.decode
    "102b-102c 1038 1062-1064 1067-106d 1083 1087-108c 108f 109a-109c 1a61 1a63-1a64 aa7b aa7d
    11720-11721")

def leadingJamo : CharSet := CharSet.decode "1100-115f a960-a97c"

def vowelJamo : CharSet := CharSet.decode "1160-11a7 d7b0-d7c6 16d63 16d67-16d6a"

def trailingJamo : CharSet := CharSet.decode "11a8-11ff d7cb-d7fb"

/-- The Hangul syllables without a trailing consonant: the first of every twenty-eight. -/
def openSyllable : CharSet :=
  ⟨(List.range 399).map fun i => (0xac00 + 28 * i, 0xac00 + 28 * i)⟩

def closedSyllable : CharSet := (CharSet.range 0xac00 0xd7a3).diff openSyllable

/-- The class of clusters that a lower-case name without separators stands for. -/
def cluster? (name : String) : Option CharSet :=
  match name with
  | "cn" | "control" => some clusterControl
  | "cr" => some (CharSet.single 13)
  | "ex" | "extend" => some clusterExtend
  | "l" => some leadingJamo
  | "lf" => some (CharSet.single 10)
  | "lv" => some openSyllable
  | "lvt" => some closedSyllable
  | "pp" | "prepend" => some clusterPrepend
  | "ri" | "regionalindicator" => some Property.regionalIndicator
  | "sm" | "spacingmark" => some clusterSpacingMark
  | "t" => some trailingJamo
  | "v" => some vowelJamo
  | "zwj" => some joiner
  | _ => none

/-! ## Words -/

/-- What belongs to the character in front wherever words are looked for. -/
def wordExtend : CharSet :=
  (CharSet.unionAll
    [Property.graphemeExtend, spacingMark.set, Property.emojiModifier]).diff joiner

/-- The characters of numbers in running text. -/
def numeric : CharSet :=
  CharSet.unionAll [decimalNumber.set, numberMark, CharSet.decode "66b-66c 19da"]

def hebrewLetter : CharSet := CharSet.decode
  "5d0-5ea 5ef-5f2 fb1d fb1f-fb28 fb2a-fb36 fb38-fb3c fb3e fb40-fb41 fb43-fb44 fb46-fb4f"

def wordKatakana : CharSet := CharSet.decode
  "3031-3035 309b-309c 30a0-30fa 30fc-30ff 31f0-31ff 32d0-32fe 3300-3357 ff66-ff9d 1aff0-1aff3
  1aff5-1affb 1affd-1affe 1b000 1b120-1b122 1b155 1b164-1b167"

/-- Signs that are no letters but are treated as such within words. -/
def letterLike : CharSet := CharSet.decode
  "b8 2c2-2c5 2d2-2d7 2de-2df 2e5-2eb 2ed 2ef-2ff 55a-55c 55e 58a 5f3 70f a708-a716 a720-a721
  a789-a78a ab5b"

/-- The letters of writing systems that put no blanks between words, and the Hebrew letters. -/
def unspacedLetter : CharSet := CharSet.decode
  "5d0-5ea 5ef-5f2 e01-e30 e32-e33 e40-e46 e81-e82 e84 e86-e8a e8c-ea3 ea5 ea7-eb0 eb2-eb3 ebd
  ec0-ec4 ec6 edc-edf 1000-102a 103f 1050-1055 105a-105d 1061 1065-1066 106e-1070 1075-1081 108e
  1780-17b3 17d7 17dc 1950-196d 1970-1974 1980-19ab 19b0-19c9 1a20-1a54 1aa7 3006-3007 3021-3029
  3031-3035 3038-303a 3041-3096 309d-309f 30a1-30fa 30fc-30ff 31f0-31ff 3400-4dbf 4e00-9fff
  a9e0-a9e4 a9e6-a9ef a9fa-a9fe aa60-aa76 aa7a aa7e-aaaf aab1 aab5-aab6 aab9-aabd aac0 aac2
  aadb-aadd f900-fa6d fa70-fad9 fb1d fb1f-fb28 fb2a-fb36 fb38-fb3c fb3e fb40-fb41 fb43-fb44
  fb46-fb4f ff66-ff9d 11700-1171a 11740-11746 17000-187f7 18800-18cd5 18cff-18d08 1aff0-1aff3
  1aff5-1affb 1affd-1affe 1b000-1b122 1b132 1b150-1b152 1b155 1b164-1b167 1b170-1b2fb 20000-2a6df
  2a700-2b739 2b740-2b81d 2b820-2cea1 2ceb0-2ebe0 2ebf0-2ee5d 2f800-2fa1d 30000-3134a 31350-323af"

def wordLetter : CharSet :=
  ((Property.alphabetic.union letterLike).diff unspacedLetter).diff wordExtend

def wordFormat : CharSet :=
  (format.set.diff (CharSet.unionAll [numberMark, wordExtend, joiner])).diff
    (CharSet.decode "70f 200b")

def midNumber : CharSet :=
  CharSet.decode "2c 3b 37e 589 60c-60d 66c 7f8 2044 fe10 fe14 fe50 fe54 ff0c ff1b"

/-- The class of words that a lower-case name without separators stands for. -/
def word? (name : String) : Option CharSet :=
  match name with
  | "le" | "aletter" => some wordLetter
  | "cr" => some (CharSet.single 13)
  | "dq" | "doublequote" => some (CharSet.single 0x22)
  | "extend" => some wordExtend
  | "ex" | "extendnumlet" => some (CharSet.decode "5f 202f 203f-2040 2054 fe33-fe34 fe4d-fe4f ff3f")
  | "fo" | "format" => some wordFormat
  | "hl" | "hebrewletter" => some hebrewLetter
  | "ka" | "katakana" => some wordKatakana
  | "lf" => some (CharSet.single 10)
  | "ml" | "midletter" => some (CharSet.decode "3a b7 387 55f 5f4 2027 fe13 fe55 ff1a")
  | "mn" | "midnum" => some midNumber
  | "mb" | "midnumlet" => some (CharSet.decode "2e 2018-2019 2024 fe52 ff07 ff0e")
  | "nl" | "newline" => some (CharSet.decode "b-c 85 2028-2029")
  | "nu" | "numeric" => some (numeric.diff (CharSet.single 0x66c))
  | "ri" | "regionalindicator" => some Property.regionalIndicator
  | "sq" | "singlequote" => some (CharSet.single 0x27)
  | "wsegspace" => some (CharSet.decode "20 1680 2000-2006 2008-200a 205f 3000")
  | "zwj" => some joiner
  | _ => none

/-! ## Sentences -/

def sentenceExtend : CharSet :=
  CharSet.unionAll [Property.graphemeExtend, spacingMark.set, joiner]

/-- The Georgian letters, whose two cases do not tell sentences apart. -/
def georgian : CharSet := CharSet.decode "10d0-10fa 10fd-10ff 1c90-1cba 1cbd-1cbf"

def sentenceLower : CharSet := Property.lowercase.diff (Property.graphemeExtend.union georgian)

def sentenceUpper : CharSet := (Property.uppercase.union titlecaseLetter.set).diff georgian

/-- The letters without case. -/
def sentenceLetter : CharSet :=
  (Property.alphabetic.union (CharSet.single 0x5f3)).diff
    (CharSet.unionAll [sentenceLower, sentenceUpper, sentenceExtend])

/-- The full stops, which do not always end a sentence. -/
def fullStop : CharSet := CharSet.decode "2e 2024 fe52 ff0e"

/-- The brackets and quotation marks that may close a sentence. -/
def sentenceClose : CharSet :=
  (setOf [openPunctuation, closePunctuation, initialPunctuation, finalPunctuation]).union
    (CharSet.decode "22 27 275b-2760 2e00-2e01 2e06-2e08 2e0b 1f676-1f678")

def sentenceContinue : CharSet := CharSet.decode
  "2c-2d 3a-3b 37e 55d 60c-60d 7f8 1802 1808 2013-2014 3001 fe10-fe11 fe13-fe14 fe31-fe32 fe50-fe51
  fe54-fe55 fe58 fe63 ff0c-ff0d ff1a-ff1b ff64"

def sentenceSeparator : CharSet := CharSet.decode "85 2028-2029"

/-- The class of sentences that a lower-case name without separators stands for. -/
def sentence? (name : String) : Option CharSet :=
  match name with
  | "at" | "aterm" => some fullStop
  | "cr" => some (CharSet.single 13)
  | "cl" | "close" => some sentenceClose
  | "ex" | "extend" => some sentenceExtend
  | "fo" | "format" => some (format.set.diff (numberMark.union sentenceExtend))
  | "lf" => some (CharSet.single 10)
  | "lo" | "lower" => some sentenceLower
  | "nu" | "numeric" => some numeric
  | "le" | "oletter" => some sentenceLetter
  | "sc" | "scontinue" => some sentenceContinue
  | "st" | "sterm" => some (Property.sentenceTerminal.diff fullStop)
  | "se" | "sep" => some sentenceSeparator
  | "sp" => some (Property.whiteSpace.diff
      (CharSet.unionAll [CharSet.single 10, CharSet.single 13, sentenceSeparator]))
  | "up" | "upper" => some sentenceUpper
  | _ => none

end TagEdit.Unicode.Break
