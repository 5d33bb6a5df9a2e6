import PartitionScan.Text.FoldRuns
import PartitionScan.Text.Ranges

/-!
# Characters equal up to case

Two characters are equal up to case when they have the same simple case folding.
-/
namespace PartitionScan.Text

def CaseRun.members (r : CaseRun) : List Nat :=
  (List.range ((r.last - r.first) / r.stride + 1)).map fun k => r.first + k * r.stride

def foldTargets : List Nat :=
  let targets := foldRuns.flatMap fun r => r.members.map fun (n : Nat) => (n + r.shift).toNat
  targets.mergeSort.eraseReps

/-- The sets of two or more code points that are equal up to case. -/
def caseOrbits : List (List Nat) :=
  foldTargets.map fun n => n :: CaseRun.sources foldRuns n

def Ranges.anyCase (s : Ranges) : Ranges :=
  union s (ofCodePoints (caseOrbits.filter fun orbit => orbit.any fun n => has n s).flatten)

end PartitionScan.Text
