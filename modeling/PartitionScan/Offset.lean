import PartitionScan.Fault

/-!
# Offsets and positions

An offset is a natural number below `2 ^ 64`. A scan works on signed positions, of which `-1` lies
just before the text; the two number lines agree below `2 ^ 63` and wrap above it.
-/
namespace PartitionScan

def offsetLimit : Nat := 0x10000000000000000

def lastPosition : Nat := 0x7FFFFFFFFFFFFFFF

/-- The sum of two offsets, which has to be one itself. -/
def addOffsets (m n : Nat) : Except Fault Nat :=
  if m + n < offsetLimit then .ok (m + n) else .error .overflow

/-- The position with the same 64 bits as the offset. -/
def toPosition (offset : Nat) : Int :=
  Int.bmod offset offsetLimit

def toOffset (position : Int) : Nat :=
  (position % offsetLimit).toNat

theorem toPosition_of_le {n : Nat} (h : n ≤ lastPosition) : toPosition n = n := by
  unfold toPosition lastPosition offsetLimit at *
  rw [Int.bmod_eq_of_le] <;> omega

/-- An offset behind the last position wraps around. -/
theorem toPosition_neg {n : Nat} (h : lastPosition < n) (h' : n < offsetLimit) :
    toPosition n < 0 := by
  unfold toPosition lastPosition offsetLimit at *
  rw [Int.bmod_def]
  split <;> omega

theorem toOffset_natCast {n : Nat} (h : n < offsetLimit) : toOffset n = n := by
  unfold toOffset
  rw [Int.emod_eq_of_lt] <;> omega

end PartitionScan
