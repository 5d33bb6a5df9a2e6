import PartitionScan.Path

/-!
# File trees

A tree of files held in memory. Paths are read relative to its root.
-/
namespace PartitionScan

/-- Files by the parts of their paths, the most recently written first. -/
structure Files where
  entries : List (List String × ByteArray) := []

namespace Files

/-- Whether the parts name the root or a directory that holds some file. -/
def isDirectory (files : Files) (place : List String) : Bool :=
  place.isEmpty || files.entries.any fun entry =>
    place.isPrefixOf entry.1 && place.length < entry.1.length

/-- Follows the parts of a path from a directory; `..` leads to the directory above. -/
def follow (files : Files) (place : List String) : List String → Option (List String)
  | [] => some place
  | part :: rest =>
    if !files.isDirectory place then none
    else if part == ".." then files.follow place.dropLast rest
    else files.follow (place ++ [part]) rest

/-- The place that a path names for a file. Absolute paths, the empty path and paths that end in a
slash or a dot name none, and neither do paths that no file system takes. -/
def locate (files : Files) (path : String) : Option (List String) :=
  if !Path.isUsable path then none
  else
    match Path.pieces path with
    | "" :: _ => none
    | pieces =>
      match pieces.getLast? with
      | some "" => none
      | some "." => none
      | _ => files.follow [] (Path.parts path)

def read (files : Files) (path : String) : Option ByteArray :=
  (files.locate path).bind fun place =>
    (files.entries.find? fun entry => entry.1 == place).map (·.2)

/-- The tree with a file written: its directory has to exist, and its place must not be one. -/
def write (files : Files) (path : String) (contents : ByteArray) : Option Files :=
  (files.locate path).bind fun place =>
    if files.isDirectory place || !files.isDirectory place.dropLast then none
    else some { entries := (place, contents) :: files.entries }

def ofList (files : List (String × ByteArray)) : Files :=
  { entries := files.map fun file => (Path.parts file.1, file.2) }

end Files

end PartitionScan
