import PartitionScan.Fault
import PartitionScan.Pattern.Footprint
import PartitionScan.Pattern.Opening
import PartitionScan.Pattern.Reader
import PartitionScan.Pattern.Search

/-!
# Patterns

A pattern is searched for in the text of a line, from left to right: the leftmost match wins, and
of the matches that start there the most wanted one.
-/
namespace PartitionScan

structure Pattern where
  source : String
  program : Array Pattern.Node
  deriving DecidableEq, Repr, Inhabited

namespace Pattern

/-- The pattern with a written form, if that is well formed and not too large. What is too large may
still be a list of texts, and then that list is looked up. -/
def compile (source : String) : Except PatternFault Pattern :=
  match readExpr source.toList with
  | some e =>
    if e.fits then .ok { source, program := e.program }
    else
      match e.texts? with
      | some list => .ok { source, program := list.program }
      | none => .error .tooLarge
  | none => .error .malformed

def find (p : Pattern) (text : Array Char) (start : Nat) : Option (Nat × Nat) :=
  search p.program text start

end Pattern

end PartitionScan
