import PartitionScan.Text.Wide
import PartitionScan.Text.ZeroWidth

/-!
# Display width of a character

How many cells of a display line a character fills.
-/
namespace PartitionScan.Text

/-- Controls and zero-width characters fill no cell, wide characters two, all others one. The Khmer
vowel qaa is written with two letters, and the Khmer sign beyyal stands for a word of three. -/
def width (c : Char) : Nat :=
  if c.toNat < 0x20 || (0x7F ≤ c.toNat && c.toNat < 0xA0) then 0
  else if zeroWidth.hasChar c then 0
  else if wide.hasChar c then 2
  else if c == '\u17A4' then 2
  else if c == '\u17D8' then 3
  else 1

end PartitionScan.Text
