import PartitionScan.Scan.Peer
import PartitionScan.Scan.Regions

/-!
# Scanners

A scanner keeps a cursor for queries on one document. It has to be configured with a document and a
filter before the first query.
-/
namespace PartitionScan.Scan

structure Scanner where
  classifier : Classifier
  target : Option (Document × Filter) := none
  cursor : Cursor := {}

namespace Scanner

/-- Takes up a document and a filter and resets the cursor. -/
def configure (s : Scanner) (d : Document) (filter : Filter) : Scanner :=
  { s with target := some (d, filter), cursor := {} }

def ofDocument (classifier : Classifier) (d : Document) (filter : Filter) : Scanner :=
  configure { classifier } d filter

def context (s : Scanner) : Except Fault Context :=
  match s.target with
  | some (document, filter) => .ok { document, classifier := s.classifier, filter }
  | none => .error .notConfigured

def document (s : Scanner) : Except Fault Document :=
  s.context.map (·.document)

def ask {α : Type} (s : Scanner) (q : Query α) : Except Fault (α × Scanner) := do
  let (answer, cursor) ← q (← s.context) s.cursor
  return (answer, { s with cursor })

end Scanner

end PartitionScan.Scan
