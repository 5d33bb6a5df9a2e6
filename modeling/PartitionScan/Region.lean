/-!
# Regions

A region is a run of characters given by its offset and length.
-/
namespace PartitionScan

/-- The `length` characters from `offset` on. -/
structure Region where
  offset : Nat
  length : Nat
  deriving DecidableEq, Repr, Inhabited

namespace Region

def finish (r : Region) : Nat :=
  r.offset + r.length

def isEmpty (r : Region) : Bool :=
  r.length == 0

def covers (r : Region) (offset : Nat) : Bool :=
  r.offset ≤ offset && offset < r.finish

end Region

end PartitionScan
