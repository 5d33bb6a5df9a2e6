import PartitionScan.Language.ByteLoop
import PartitionScan.PartitionMap

/-!
# Partitioning a document

A language partitions a document line by line, each line beginning in the state in which the one
before it ended. The spans of a line are reported in bytes of its text and taken to characters here.
A line that ends inside a construct leaves its delimiter to that construct.
-/
namespace PartitionScan

def Span.placed (offset : Nat) (content : List Char) (s : Span) : Partition :=
  let start := placeOfByte content s.start
  { kind := s.kind, offset := offset + start, length := placeOfByte content s.finish - start }

namespace Engine

variable (e : Engine) (lang : Language) (d : Document)

/-- The typed spans of a line entered in a state, and the state it ends in. -/
def typeLine (line state : Nat) : Except Fault (List Partition × Nat) := do
  let info ← d.lineRegion line
  let content ← (List.range' info.offset info.length).mapM d.charAt
  let result := e.spans lang content state
  let spans := result.spans.map (Span.placed info.offset content)
  match lang.kindOfState result.state with
  | some kind =>
    let delimiter := (← d.lineLength line) - info.length
    return (spans ++ [{ kind, offset := info.finish, length := delimiter }], result.state)
  | none => return (spans, result.state)

def typeLines : List Nat → Nat → Except Fault (List Partition)
  | [], _ => return []
  | line :: rest, state => do
    let (spans, state) ← e.typeLine lang d line state
    return spans ++ (← typeLines rest state)

def partition : Except Fault PartitionMap := do
  let spans ← e.typeLines lang d (List.range d.lineCount) 0
  return .ofSpans lang.name d.length spans

end Engine

/-- The partitions of a document as the patterns' own search makes them. -/
def Language.partition (lang : Language) (d : Document) : Except Fault PartitionMap :=
  Engine.own.partition lang d

end PartitionScan
