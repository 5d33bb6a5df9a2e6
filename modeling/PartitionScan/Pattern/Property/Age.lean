import PartitionScan.Pattern.Property.AgeTable
import PartitionScan.Text.Ranges

/-!
# Characters by age

A version of the character standard has all characters that were new in it or in an earlier one.
-/
namespace PartitionScan.Pattern

open Text (Ranges)

/-- The characters of the version with a name, given the rest of the table and the characters of the
versions before. -/
def ageFrom (name : String) (older : Ranges) : List (List String × String) → Option Ranges
  | [] => none
  | (names, text) :: rest =>
    let present := Ranges.union older (Ranges.ofText text)
    if names.contains name then some present else ageFrom name present rest

def age? (name : String) : Option Ranges :=
  ageFrom name [] ageTable

end PartitionScan.Pattern
