import PartitionScan.Text.Ranges

/-!
# Byte forms

The characters of a set, encoded in UTF-8, are described by sequences of byte ranges.
-/
namespace PartitionScan.Pattern

open Text (Ranges)

def bytesOf (c : Char) : List Nat :=
  (String.utf8EncodeChar c).map UInt8.toNat

/-- Where a range of code points has to be cut so that one sequence of byte ranges can describe each
part: the end of the left part and the start of the right one. Surrogates are left out, all
encodings have one length, and all bytes after the first that differ run over their whole range. -/
def cut? (first last : Nat) : Option (Nat × Nat) :=
  if first < 0xE000 && 0xD7FF < last then some (0xD7FF, 0xE000)
  else
    match [0x7F, 0x7FF, 0xFFFF].find? fun most => first ≤ most && most < last with
    | some most => some (most, most + 1)
    | none =>
      if last ≤ 0x7F then none
      else
        [64, 64 * 64, 64 * 64 * 64].findSome? fun block =>
          if first / block == last / block then none
          else if first % block != 0 then
            some ((first / block + 1) * block - 1, (first / block + 1) * block)
          else if last % block != block - 1 then
            some (last / block * block - 1, last / block * block)
          else none

abbrev ByteSequence := List (Nat × Nat)

/-- The sequences of byte ranges of a range of code points, cut at most `fuel` times in depth. -/
def byteSequencesWith : Nat → Nat → Nat → List ByteSequence
  | 0, _, _ => []
  | fuel + 1, first, last =>
    if last < first then []
    else
      match cut? first last with
      | some (left, right) => byteSequencesWith fuel first left ++ byteSequencesWith fuel right last
      | none => [(bytesOf (Char.ofNat first)).zip (bytesOf (Char.ofNat last))]

/-- The sequences of byte ranges of a set. No range is cut more than 16 times in depth: once for the
surrogates, three times for the lengths and twice for each byte after the first. -/
def byteSequences (set : Ranges) : List ByteSequence :=
  set.flatMap fun (first, last) => byteSequencesWith 16 first last

end PartitionScan.Pattern
