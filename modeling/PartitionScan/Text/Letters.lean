import PartitionScan.Text.Alphabetic
import PartitionScan.Text.Numeric

/-!
# Words and blanks

The character classes that scans ask for, as unions of general properties.
-/
namespace PartitionScan.Text

/-- Tabs and the separators that take space on a line; a line break is no blank. -/
def isBlank (c : Char) : Bool :=
  c == '\t' || c == ' ' || c == '\u00A0' || c == '\u1680' ||
    ('\u2000' ≤ c && c ≤ '\u200A') || c == '\u202F' || c == '\u205F' || c == '\u3000'

/-- Blanks, line and page breaks, and the separators between lines and paragraphs. -/
def isSpace (c : Char) : Bool :=
  ('\t' ≤ c && c ≤ '\r') || c == ' ' || c == '\u0085' || c == '\u00A0' || c == '\u1680' ||
    ('\u2000' ≤ c && c ≤ '\u200A') || c == '\u2028' || c == '\u2029' || c == '\u202F' ||
    c == '\u205F' || c == '\u3000'

def isAlphanumeric (c : Char) : Bool :=
  alphabetic.hasChar c || numeric.hasChar c

end PartitionScan.Text
