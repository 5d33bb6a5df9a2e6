import PartitionScan.Toml.Number

/-!
# Tables that stand for dates

A table below the root whose first key is a reserved one is no table but a date or time, which the
value of that key writes as a string.
-/
namespace PartitionScan.Toml

def dateKey : String :=
  "$__toml_private_datetime"

def isDateTime (cs : List Char) : Bool :=
  (if (cs.drop 2).head? == some ':' then readTime cs else readDateTime cs) == some []

/-- The date of a table that begins with the reserved key. -/
def dateOf : Entries → Option Value
  | (_, .string text) :: _ => if isDateTime text.toList then some (.dateTime text) else none
  | _ => none

mutual

def Value.withDates : Value → Option Value
  | .array origin items => (itemsWithDates items).map (.array origin ·)
  | .table origin entries =>
    if (entries.head?).any (·.1 == dateKey) then dateOf entries
    else (entriesWithDates entries).map (.table origin ·)
  | v => some v

def itemsWithDates : List Value → Option (List Value)
  | [] => some []
  | v :: rest => v.withDates.bind fun v => (itemsWithDates rest).map (v :: ·)

def entriesWithDates : List (String × Value) → Option (List (String × Value))
  | [] => some []
  | (key, v) :: rest => v.withDates.bind fun v => (entriesWithDates rest).map ((key, v) :: ·)

end

end PartitionScan.Toml
