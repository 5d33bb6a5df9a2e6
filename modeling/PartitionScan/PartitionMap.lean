import PartitionScan.Partition

/-!
# Partition maps

A partition map is a tiling of a text of known length: its partitions follow each other without
gaps, and neighbours differ in kind.
-/
namespace PartitionScan

/-- The partitions of a text of `length` characters, in order. -/
structure PartitionMap where
  name : String
  partitions : List Partition
  length : Nat
  deriving DecidableEq, Repr, Inhabited

namespace PartitionMap

def gap (start finish : Nat) : List Partition :=
  if start < finish then [{ kind := defaultKind, offset := start, length := finish - start }]
  else []

/-- Puts partitions of the default kind between spans and up to `length`, from offset `start` on.
Spans that are empty or begin before the end of an earlier one are left out. -/
def fill (length : Nat) (start : Nat) : List Partition → List Partition
  | [] => gap start length
  | span :: rest =>
    if span.length = 0 ∨ span.offset < start then fill length start rest
    else gap start span.offset ++ span :: fill length span.finish rest

/-- Puts a partition in front, joined with the first one if that continues it. -/
def joinFirst (p : Partition) : List Partition → List Partition
  | [] => [p]
  | q :: rest =>
    if p.kind = q.kind ∧ p.finish = q.offset then { p with length := p.length + q.length } :: rest
    else p :: q :: rest

def join : List Partition → List Partition
  | [] => []
  | p :: rest => joinFirst p (join rest)

/-- The map of a text of `length` characters whose typed spans are given; the rest is of the default
kind. -/
def ofSpans (name : String) (length : Nat) (spans : List Partition) : PartitionMap :=
  { name, partitions := join (fill length 0 spans), length }

def isEmpty (m : PartitionMap) : Bool :=
  m.length == 0

def ofKind (m : PartitionMap) (kind : String) : List Partition :=
  m.partitions.filter (·.kind == kind)

/-- The partition at an offset of a document that has the length of the map. The end of the document
belongs to the last partition. -/
def partitionAt (m : PartitionMap) (d : Document) (offset : Nat) : Except Fault Partition :=
  if d.length ≠ m.length then .error (.staleMap m.length d.length)
  else if m.length < offset then .error (.badLocation offset m.length)
  else
    match m.partitions.getLast? with
    | none => .ok { kind := defaultKind, offset := 0, length := 0 }
    | some last =>
      if offset = m.length then .ok last
      else
        match m.partitions.find? (offset < ·.finish) with
        | some p => .ok p
        | none => .error (.badLocation offset m.length)

def classifier (m : PartitionMap) : Classifier where
  name := m.name
  partitionAt := m.partitionAt

end PartitionMap

end PartitionScan
