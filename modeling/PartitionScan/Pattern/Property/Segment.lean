import PartitionScan.Pattern.Property.Binary
import PartitionScan.Pattern.Property.Script

/-!
# The roles of characters in segmentation

What a character does to the boundaries of clusters, words and sentences around it. The roles are
built from the general categories and the other properties.
-/
namespace PartitionScan.Pattern

open Text (Ranges)

def clusterExtend : Ranges :=
  .union graphemeExtend (ofBinaryTable "emojimodifier")

def clusterControl : Ranges :=
  .diff
    (.union (ofCategories ["zl", "zp", "cc", "cf"])
      (.inter (ofCategories ["cn"]) (ofBinaryTable "di")))
    (.union (.ofText "A D 200C-200D") (.union (ofBinaryTable "pcm") graphemeExtend))

def clusterPrepend : Ranges :=
  .union (ofBinaryTable "pcm")
    (.ofText "D4E 111C2-111C3 113D1 1193F 11941 11A3A 11A84-11A89 11D46 11F02")

def clusterSpacing : Ranges :=
  .diff (.union (ofCategories ["mc"]) (.ofText "E33 EB3"))
    (.union graphemeExtend
      (.ofText "102B-102C 1038 1062-1064 1067-106D 1083 1087-108C 108F 109A-109C 1A61 1A63-1A64 AA7B
        AA7D 11720-11721"))

/-- Hangul syllables without a final consonant: every 28th syllable. -/
def openSyllables : Ranges :=
  (List.range 399).map fun k => (0xAC00 + 28 * k, 0xAC00 + 28 * k)

def clusterBreak? (name : String) : Option Ranges :=
  match name with
  | "cr" => some (.single 0x0D)
  | "lf" => some (.single 0x0A)
  | "control" | "cn" => some clusterControl
  | "extend" | "ex" => some clusterExtend
  | "l" => some (.ofText "1100-115F A960-A97C")
  | "v" => some (.ofText "1160-11A7 D7B0-D7C6 16D63 16D67-16D6A")
  | "t" => some (.ofText "11A8-11FF D7CB-D7FB")
  | "lv" => some openSyllables
  | "lvt" => some (.diff [(0xAC00, 0xD7A3)] openSyllables)
  | "prepend" | "pp" => some clusterPrepend
  | "regionalindicator" | "ri" => some (ofBinaryTable "ri")
  | "spacingmark" | "sm" => some clusterSpacing
  | "zwj" => some (.single 0x200D)
  | _ => none

def numberSigns : Ranges :=
  .diff (ofBinaryTable "pcm") (.single 0x70F)

def numberParts : Ranges :=
  .union (ofCategories ["nd"]) (.union numberSigns (.ofText "66B-66C 19DA"))

/-- Letters of the scripts of South East Asia that write words without blanks. -/
def unspacedLetters : Ranges :=
  .ofText "E01-E3A E40-E4E E81-E82 E84 E86-E8A E8C-EA3 EA5 EA7-EBD EC0-EC4 EC6 EC8-ECE EDC-EDF
    1000-103F 1050-108F 109A-109F 1780-17D3 17D7 17DC-17DD 1950-196D 1970-1974 1980-19AB 19B0-19C9
    19DA 19DE-19DF 1A20-1A5E 1A60-1A7C 1AA0-1AAD A9E0-A9EF A9FA-A9FE AA60-AAC2 AADB-AADF
    11700-1171A 1171D-1172B 1173A-1173B 1173F-11746"

def wordExtend : Ranges :=
  .diff (.union clusterExtend (ofCategories ["mc"])) (.single 0x200D)

def wordKatakana : Ranges :=
  .union ((script? "katakana").getD []) (.ofText "3031-3035 309B-309C 30A0 30FC FF70")

def wordHebrew : Ranges :=
  .inter ((script? "hebrew").getD []) (ofCategories ["lo"])

/-- Letters of words, but for ideographs and the letters with a role of their own. -/
def wordLetter : Ranges :=
  .diff
    (.union alphabetic
      (.ofText "2C2-2C5 2D2-2D7 2DE-2DF 2E5-2EB 2ED 2EF-2FF 55A-55C 55E 58A 5F3 70F A708-A716
        A720-A721 A789-A78A AB5B"))
    (.union (.union (ofBinaryTable "ideographic") (.union wordKatakana wordHebrew))
      (.union unspacedLetters (.union wordExtend ((script? "hiragana").getD []))))

def wordFormat : Ranges :=
  .diff (ofCategories ["cf"])
    (.union (.ofText "200B-200D") (.union (ofBinaryTable "pcm") graphemeExtend))

def wordBreak? (name : String) : Option Ranges :=
  match name with
  | "cr" => some (.single 0x0D)
  | "lf" => some (.single 0x0A)
  | "newline" | "nl" => some (.ofText "B-C 85 2028-2029")
  | "doublequote" | "dq" => some (.single 0x22)
  | "singlequote" | "sq" => some (.single 0x27)
  | "extend" => some wordExtend
  | "extendnumlet" | "ex" => some (.union (ofCategories ["pc"]) (.single 0x202F))
  | "format" | "fo" => some wordFormat
  | "hebrewletter" | "hl" => some wordHebrew
  | "katakana" | "ka" => some wordKatakana
  | "aletter" | "le" => some wordLetter
  | "midletter" | "ml" => some (.ofText "3A B7 387 55F 5F4 2027 FE13 FE55 FF1A")
  | "midnumlet" | "mb" => some (.ofText "2E 2018-2019 2024 FE52 FF07 FF0E")
  | "midnum" | "mn" =>
    some (.ofText "2C 3B 37E 589 60C-60D 66C 7F8 2044 FE50 FE54 FF0C FF1B")
  | "numeric" | "nu" => some (.diff numberParts (.single 0x66C))
  | "regionalindicator" | "ri" => some (ofBinaryTable "ri")
  | "wsegspace" => some (.ofText "20 1680 2000-2006 2008-200A 205F 3000")
  | "zwj" => some (.single 0x200D)
  | _ => none

def sentenceStop : Ranges :=
  .ofText "2E 2024 FE52 FF0E"

def sentenceEnd : Ranges :=
  .diff (ofBinaryTable "sterm") sentenceStop

def sentenceClose : Ranges :=
  .diff
    (.union (ofCategories ["ps", "pe"])
      (.ofText "22 27 AB BB 2018-2019 201B-201D 201F 2039-203A 275B-2760 2E00-2E0D 2E1C-2E1D
        2E20-2E21 1F676-1F678"))
    (.union sentenceStop sentenceEnd)

def sentenceExtend : Ranges :=
  .union (.union graphemeExtend (ofCategories ["mc"])) (.single 0x200D)

/-- Small letters; Georgian has no case in sentences. -/
def sentenceLower : Ranges :=
  .diff lowercase (.union graphemeExtend (.ofText "10D0-10FA 10FD-10FF"))

def sentenceUpper : Ranges :=
  .diff (.union uppercase (ofCategories ["lt"])) (.ofText "1C90-1CBA 1CBD-1CBF")

def sentenceLetter : Ranges :=
  .diff (.union alphabetic (.single 0x5F3))
    (.union sentenceExtend (.union sentenceLower sentenceUpper))

def sentenceBreak? (name : String) : Option Ranges :=
  match name with
  | "cr" => some (.single 0x0D)
  | "lf" => some (.single 0x0A)
  | "sep" | "se" => some (.ofText "85 2028-2029")
  | "sp" => some (.diff (ofBinaryTable "whitespace") (.ofText "A D 85 2028-2029"))
  | "aterm" | "at" => some sentenceStop
  | "sterm" | "st" => some sentenceEnd
  | "close" | "cl" => some sentenceClose
  | "extend" | "ex" => some sentenceExtend
  | "format" | "fo" =>
    some (.diff (ofCategories ["cf"])
      (.union (.ofText "200C-200D") (.union numberSigns graphemeExtend)))
  | "lower" | "lo" => some sentenceLower
  | "upper" | "up" => some sentenceUpper
  | "oletter" | "le" => some sentenceLetter
  | "numeric" | "nu" => some numberParts
  | "scontinue" | "sc" =>
    some (.ofText "2C-2D 3A-3B 37E 55D 60C-60D 7F8 1802 1808 2013-2014 3001 FE10-FE11 FE13-FE14
      FE31-FE32 FE50-FE51 FE54-FE55 FE58 FE63 FF0C-FF0D FF1A-FF1B FF64")
  | _ => none

end PartitionScan.Pattern
