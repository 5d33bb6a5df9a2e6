import PartitionScan.Language.Builtin
import PartitionScan.Path
import PartitionScan.Text.Lowercase

/-!
# Language registries

A registry knows languages by name and by file extension. Extensions are compared in lower case,
and what was registered last wins.
-/
namespace PartitionScan

/-- Languages by name, and names by extension, the latest registration first. -/
structure Registry where
  languages : List (String × Language) := []
  extensions : List (String × String) := []
  deriving Repr, Inhabited

namespace Registry

def empty : Registry := {}

def add (reg : Registry) (lang : Language) : Registry where
  languages := (lang.name, lang) :: reg.languages
  extensions := lang.extensions.foldl (fun known extension =>
    (Text.lowercase extension, lang.name) :: known) reg.extensions

def addAll (reg : Registry) (languages : List Language) : Registry :=
  languages.foldl add reg

def builtin : Registry :=
  empty.addAll Language.builtin

def language? (reg : Registry) (name : String) : Option Language :=
  reg.languages.lookup name

def detect (reg : Registry) (path : String) : Option String :=
  (Path.extension? path).bind fun extension => reg.extensions.lookup (Text.lowercase extension)

def languageOf (reg : Registry) (path : String) : Option Language :=
  (reg.detect path).bind reg.language?

def names (reg : Registry) : List String :=
  (reg.languages.map (·.1)).eraseDups.mergeSort fun a b => decide (a ≤ b)

end Registry

end PartitionScan
