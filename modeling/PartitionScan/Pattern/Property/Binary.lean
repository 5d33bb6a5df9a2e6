import PartitionScan.Pattern.Property.BinaryTable
import PartitionScan.Pattern.Property.Category

/-!
# Properties by name

Properties that a character has or lacks. Most are given by a table; the others are built from the
general categories and the tables.
-/
namespace PartitionScan.Pattern

open Text (Ranges)

def ofBinaryTable (name : String) : Ranges :=
  match binaryTable.find? fun entry => entry.1.contains name with
  | some entry => Ranges.ofText entry.2
  | none => []

def alphabetic : Ranges :=
  .union (ofCategories ["lu", "ll", "lt", "lm", "lo", "nl"]) (ofBinaryTable "otheralphabetic")

def lowercase : Ranges :=
  .union (ofCategories ["ll"]) (ofBinaryTable "otherlowercase")

def uppercase : Ranges :=
  .union (ofCategories ["lu"]) (ofBinaryTable "otheruppercase")

/-- Marks, format characters, modifiers and the punctuation that stands inside words. -/
def caseIgnorable : Ranges :=
  .union (ofCategories ["mn", "me", "cf", "lm", "sk"])
    (.ofText "27 2E 3A B7 387 55F 5F4 2018-2019 2024 2027 FE13 FE52 FE55 FF07 FF0E FF1A")

def graphemeExtend : Ranges :=
  .union (ofCategories ["mn", "me"]) (ofBinaryTable "othergraphemeextend")

def graphemeBase : Ranges :=
  .compl (.union (ofCategories ["cc", "cf", "co", "cn", "zl", "zp"]) graphemeExtend)

def idStart : Ranges :=
  .union (ofBinaryTable "otheridstart")
    (.diff (ofCategories ["lu", "ll", "lt", "lm", "lo", "nl"])
      (.union (ofBinaryTable "patternsyntax") (ofBinaryTable "patternwhitespace")))

def idContinue : Ranges :=
  .union idStart
    (.union (ofCategories ["mn", "mc", "nd", "pc"]) (ofBinaryTable "otheridcontinue"))

/-- Presentation forms whose decompositions change what they are to an identifier. -/
def decomposing : Ranges :=
  .ofText "37A 309B-309C FC5E-FC63 FDFA-FDFB FE70 FE72 FE74 FE76 FE78 FE7A FE7C FE7E"

/-- What case folding changes: what lowering changes, but for the Cherokee letters that fold to
capitals, and in addition small letters with a folding of their own. -/
def changesWhenFolded : Ranges :=
  .union (.diff (ofBinaryTable "cwl") (.ofText "13A0-13F5"))
    (.ofText "B5 DF 149 17F 345 3C2 3D0-3D1 3D5-3D6 3F0-3F1 3F5 587 13F8-13FD 1C80-1C88 1E9A-1E9B
      1F80-1F87 1F90-1F97 1FA0-1FA7 1FB2-1FB4 1FB7 1FC2-1FC4 1FC7 1FF2-1FF4 1FF7 AB70-ABBF FB00-FB06
      FB13-FB17")

/-- What title case changes: it changes the capital digraphs and leaves title case letters and
Georgian alone. -/
def changesWhenTitled : Ranges :=
  .union (.ofText "1C4 1C7 1CA 1F1")
    (.diff (ofBinaryTable "cwu")
      (.ofText "1C5 1C8 1CB 1F2 10D0-10FA 10FD-10FF 1F88-1F8F 1F98-1F9F 1FA8-1FAF 1FBC 1FCC 1FFC"))

def binary? (name : String) : Option Ranges :=
  match name with
  | "alphabetic" | "alpha" => some alphabetic
  | "lowercase" | "lower" => some lowercase
  | "uppercase" | "upper" => some uppercase
  | "cased" => some (.union (.union lowercase uppercase) (ofCategories ["lt"]))
  | "caseignorable" | "ci" => some caseIgnorable
  | "graphemeextend" | "grext" => some graphemeExtend
  | "graphemebase" | "grbase" => some graphemeBase
  | "idstart" | "ids" => some idStart
  | "idcontinue" | "idc" => some idContinue
  | "xidstart" | "xids" => some (.diff idStart (.union decomposing (.ofText "E33 EB3 FF9E-FF9F")))
  | "xidcontinue" | "xidc" => some (.diff idContinue decomposing)
  | "changeswhencasefolded" | "cwcf" => some changesWhenFolded
  | "changeswhentitlecased" | "cwt" => some changesWhenTitled
  | "changeswhencasemapped" | "cwcm" =>
    some (.union (.union (ofBinaryTable "cwl") (ofBinaryTable "cwu")) changesWhenTitled)
  | "math" => some (.union (ofCategories ["sm"]) (ofBinaryTable "othermath"))
  | _ =>
    (binaryTable.find? fun entry => entry.1.contains name).map fun entry => Ranges.ofText entry.2

end PartitionScan.Pattern
