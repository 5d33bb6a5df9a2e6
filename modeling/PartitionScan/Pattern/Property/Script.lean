import PartitionScan.Pattern.Property.ScriptTable
import PartitionScan.Text.Ranges

/-!
# Scripts by name

A character belongs to one script. Characters common to several scripts are shared by those that use
them.
-/
namespace PartitionScan.Pattern

open Text (Ranges)

def script? (name : String) : Option Ranges :=
  (scriptTable.find? fun entry => entry.1.contains name).map fun entry => Ranges.ofText entry.2.1

def sharedByScripts : Ranges :=
  scriptTable.foldl (fun s entry => Ranges.union s (Ranges.ofText entry.2.2)) []

/-- The characters that the script with a name uses: its own and those it shares. A shared character
counts no longer as common or inherited. -/
def scriptUse? (name : String) : Option Ranges :=
  (scriptTable.find? fun entry => entry.1.contains name).map fun entry =>
    if entry.1.contains "common" || entry.1.contains "inherited" then
      Ranges.diff (Ranges.ofText entry.2.1) sharedByScripts
    else Ranges.union (Ranges.ofText entry.2.1) (Ranges.ofText entry.2.2)

end PartitionScan.Pattern
