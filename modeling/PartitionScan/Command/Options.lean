import PartitionScan.Fault

/-!
# Command lines

A command line is a mix of options, each with its value, and positional arguments: a file, a command
and the arguments of the command. Of an option given twice the last value counts.
-/
namespace PartitionScan.Command

inductive Slot where
  | config
  | language
  | partition
  deriving DecidableEq, Repr

def Slot.ofArgument : String → Option Slot
  | "--config" => some .config
  | "-c" => some .config
  | "--language" => some .language
  | "-l" => some .language
  | "--partition" => some .partition
  | "-p" => some .partition
  | _ => none

/-- Whether an argument that is no known option counts as an unknown one: it starts with a dash and
goes on after it. -/
def isOptionLike (argument : String) : Bool :=
  match argument.toList with
  | '-' :: _ :: _ => true
  | _ => false

structure Draft where
  config : Option String := none
  language : Option String := none
  partition : Option String := none
  positional : List String := []
  deriving DecidableEq, Repr, Inhabited

def Draft.set (d : Draft) (value : String) : Slot → Draft
  | .config => { d with config := some value }
  | .language => { d with language := some value }
  | .partition => { d with partition := some value }

def Draft.read (d : Draft) : List String → Except UsageFault Draft
  | [] => .ok d
  | argument :: rest =>
    match Slot.ofArgument argument with
    | some slot =>
      match rest with
      | [] => .error (.missingValue argument)
      | value :: rest => (d.set value slot).read rest
    | none =>
      if isOptionLike argument then .error (.unknownOption argument)
      else { d with positional := d.positional ++ [argument] }.read rest

structure Options where
  config : Option String
  language : Option String
  partition : Option String
  file : String
  command : String
  arguments : List String
  deriving DecidableEq, Repr, Inhabited

namespace Options

/-- Reads a command line, which needs a file and a command. -/
def read (arguments : List String) : Except UsageFault Options := do
  let d ← Draft.read {} arguments
  match d.positional with
  | file :: command :: arguments =>
    return {
      config := d.config
      language := d.language
      partition := d.partition
      file, command, arguments }
  | _ => throw .incomplete

def firstArgument (o : Options) : Except UsageFault String :=
  match o.arguments with
  | argument :: _ => .ok argument
  | [] => .error (.missingArgument o.command)

end Options

end PartitionScan.Command
