/-!
# Hexadecimal code points

Characters written by the hexadecimal digits of their code points.
-/
namespace PartitionScan.Text

def isHexDigit (c : Char) : Bool :=
  ('0' ≤ c && c ≤ '9') || ('a' ≤ c && c ≤ 'f') || ('A' ≤ c && c ≤ 'F')

def hexValue (c : Char) : Nat :=
  if c ≤ '9' then c.toNat - 48 else if c ≤ 'F' then c.toNat - 55 else c.toNat - 87

/-- The character with the code point that hexadecimal digits write; surrogates have none. -/
def charOfHex (digits : List Char) : Option Char :=
  let n := digits.foldl (fun n d => n * 16 + hexValue d) 0
  if digits.isEmpty || !digits.all isHexDigit then none
  else if n < 0xD800 || (0xDFFF < n && n < 0x110000) then some (Char.ofNat n)
  else none

end PartitionScan.Text
