import PartitionScan.Document

/-!
# Partitions

A partition is a run of characters of one kind. A classifier tells the partition at any offset of a
document, and a filter selects the kinds in which a scan may stop.
-/
namespace PartitionScan

/-- The kind of everything that no rule claims. -/
def defaultKind : String := "__dftl_partition_content_type"

/-- The kind of a placeholder where classification fails. -/
def missingKind : String := "__no_partition_at_all"

/-- The `length` characters from `offset` on, all of one kind. -/
structure Partition where
  kind : String
  offset : Nat
  length : Nat
  deriving DecidableEq, Repr, Inhabited

namespace Partition

def finish (p : Partition) : Nat :=
  p.offset + p.length

def region (p : Partition) : Region :=
  { offset := p.offset, length := p.length }

def missing (offset : Nat) : Partition :=
  { kind := missingKind, offset, length := 0 }

end Partition

/-- Selects the partitions in which a scan may stop. -/
inductive Filter where
  | any
  | only (kind : String)
  deriving DecidableEq, Repr, Inhabited

def Filter.accepts : Filter → String → Bool
  | .any, _ => true
  | .only wanted, kind => wanted == kind

def Filter.defaultOnly : Filter :=
  .only defaultKind

/-- Tells the partition at every offset of a document, the end of the document included. -/
structure Classifier where
  name : String
  partitionAt : Document → Nat → Except Fault Partition

namespace Classifier

def kindAt (c : Classifier) (d : Document) (offset : Nat) : Except Fault String :=
  (c.partitionAt d offset).map (·.kind)

def whole : Classifier where
  name := "__whole_document"
  partitionAt d offset :=
    if offset ≤ d.length then .ok { kind := defaultKind, offset := 0, length := d.length }
    else .error (.badLocation offset d.length)

def failing : Classifier where
  name := "failing"
  partitionAt _ _ := .error .unclassified

end Classifier

end PartitionScan
