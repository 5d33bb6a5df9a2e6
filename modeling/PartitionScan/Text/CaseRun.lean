/-!
# Runs of case mappings

A case mapping of single characters is a list of runs: every `stride`-th code point from `first`
to `last` moves by `shift`.
-/
namespace PartitionScan.Text

/-- The code points `first, first + stride, …, last`, each mapped to itself plus `shift`. -/
structure CaseRun where
  first : Nat
  last : Nat
  stride : Nat
  shift : Int
  deriving DecidableEq, Repr

namespace CaseRun

def covers (r : CaseRun) (n : Nat) : Bool :=
  r.first ≤ n && n ≤ r.last && (n - r.first) % r.stride == 0

def apply (runs : List CaseRun) (n : Nat) : Nat :=
  match runs.find? (·.covers n) with
  | some r => (n + r.shift).toNat
  | none => n

def sources (runs : List CaseRun) (n : Nat) : List Nat :=
  runs.filterMap fun r =>
    let source := (n - r.shift : Int)
    if 0 ≤ source && r.covers source.toNat then some source.toNat else none

end CaseRun

end PartitionScan.Text
