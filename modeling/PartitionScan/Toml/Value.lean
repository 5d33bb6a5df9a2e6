/-!
# TOML values

The values of a TOML document. Tables and arrays remember how they were written, for that decides
whether later lines of the document may still add to them.
-/
namespace PartitionScan.Toml

/-- How a table or an array came to be: written as a value, opened by a header, implied by the
header of a table below it, or implied by a dotted key. -/
inductive Origin where
  | literal
  | header
  | implied
  | dotted
  deriving DecidableEq, Repr, Inhabited

/-- A value. Numbers with a fraction and dates are kept as they are written. -/
inductive Value where
  | string (text : String)
  | integer (n : Int)
  | float (written : String)
  | boolean (b : Bool)
  | dateTime (written : String)
  | array (origin : Origin) (items : List Value)
  | table (origin : Origin) (entries : List (String × Value))
  deriving Repr, Inhabited

/-- The entries of a table, in the order in which they were added. -/
abbrev Entries := List (String × Value)

namespace Value

def string? : Value → Option String
  | string text => some text
  | _ => none

def integer? : Value → Option Int
  | integer n => some n
  | _ => none

def array? : Value → Option (List Value)
  | array _ items => some items
  | _ => none

def table? : Value → Option Entries
  | table _ entries => some entries
  | _ => none

end Value

end PartitionScan.Toml
