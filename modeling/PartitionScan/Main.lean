import PartitionScan.Command.Run

/-!
# The program

Reads the files that the command line names, runs the command and prints its output.
-/
namespace PartitionScan.Command

def contentsOf (path : String) : IO (Option ByteArray) := do
  try
    return some (← IO.FS.readBinFile path)
  catch _ =>
    return none

end PartitionScan.Command

open PartitionScan

def main (arguments : List String) : IO UInt32 := do
  let files ← (Command.filesOf arguments).mapM fun path => return (path, ← Command.contentsOf path)
  let ownSettings ←
    match ← IO.getEnv "HOME" with
    | some home => Command.contentsOf (home ++ "/.heurscan.toml")
    | none => pure none
  let output := Command.run ⟨fun path => (files.lookup path).join, ownSettings⟩ arguments
  IO.print output.stdout
  IO.eprint output.stderr
  return output.code.toUInt32
