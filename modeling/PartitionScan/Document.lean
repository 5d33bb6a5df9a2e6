import PartitionScan.Buffer

/-!
# Documents

A document is what a scan can ask about a text: its length, its characters and its lines. Nothing
holds of the answers by themselves. A scan trusts the stated length for its bounds and finds out
from a failed read that there is less to read.
-/
namespace PartitionScan

/-- Read access to a text by character offsets. The last two answers follow from the others unless a
document gives its own. -/
structure Document where
  length : Nat
  charAt : Nat → Except Fault Char
  lineCount : Nat
  lineOfOffset : Nat → Except Fault Nat
  lineOffset : Nat → Except Fault Nat
  lineLength : Nat → Except Fault Nat
  lineRegion : Nat → Except Fault Region
  isEmpty : Bool := length == 0
  lineRegionOfOffset : Nat → Except Fault Region := fun offset =>
    (lineOfOffset offset).bind lineRegion

namespace Buffer

/-- A buffer for which any length is stated. All else is answered by the buffer. -/
def stating (b : Buffer) (length : Nat) : Document where
  length := length
  charAt := b.charAt
  lineCount := b.lines.length
  lineOfOffset := b.lineOfOffset
  lineOffset := b.lineOffset
  lineLength := b.lineLength
  lineRegion := b.lineRegion

def document (b : Buffer) : Document :=
  b.stating b.length

section

variable (b : Buffer)

@[simp] theorem length_document : b.document.length = b.length := rfl

@[simp] theorem charAt_document : b.document.charAt = b.charAt := rfl

@[simp] theorem lineOfOffset_document : b.document.lineOfOffset = b.lineOfOffset := rfl

@[simp] theorem lineOffset_document : b.document.lineOffset = b.lineOffset := rfl

@[simp] theorem lineLength_document : b.document.lineLength = b.lineLength := rfl

@[simp] theorem lineRegion_document : b.document.lineRegion = b.lineRegion := rfl

end

end Buffer

end PartitionScan
