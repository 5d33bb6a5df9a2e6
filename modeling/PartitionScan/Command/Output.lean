import PartitionScan.Fault

/-!
# Output of a command

What a command has printed, and the fault that ended it, if one did.
-/
namespace PartitionScan.Command

/-- Printed text, and the fault after which nothing more was printed. -/
structure Output where
  stdout : String := ""
  fault : Option Fault := none
  deriving DecidableEq, Repr, Inhabited

namespace Output

/-- One output after the other; nothing follows a fault. -/
def andThen (a b : Output) : Output :=
  match a.fault with
  | some _ => a
  | none => { stdout := a.stdout ++ b.stdout, fault := b.fault }

def concat (outputs : List Output) : Output :=
  outputs.foldl andThen {}

def after {α : Type} (result : Except Fault α) (next : α → Output) : Output :=
  match result with
  | .ok a => next a
  | .error e => { fault := some e }

def print (text : Except Fault String) : Output :=
  after text fun s => { stdout := s }

def line (text : Except Fault String) : Output :=
  after text fun s => { stdout := s ++ "\n" }

def code (o : Output) : Nat :=
  if o.fault.isSome then 1 else 0

def stderr (o : Output) : String :=
  match o.fault with
  | some e => "Error: " ++ e.message ++ "\n"
  | none => ""

end Output

end PartitionScan.Command
