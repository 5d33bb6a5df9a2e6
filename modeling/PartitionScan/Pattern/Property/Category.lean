import PartitionScan.Pattern.Property.CategoryTable
import PartitionScan.Text.Ranges

/-!
# General categories by name

Every character has one general category, and some names stand for several categories.
-/
namespace PartitionScan.Pattern

open Text (Ranges)

/-- For each category or group of categories its names and its members. -/
def categoryNames : List (List String × List String) := [
  (["lu", "uppercaseletter"], ["lu"]),
  (["ll", "lowercaseletter"], ["ll"]),
  (["lt", "titlecaseletter"], ["lt"]),
  (["lc", "casedletter"], ["lu", "ll", "lt"]),
  (["lm", "modifierletter"], ["lm"]),
  (["lo", "otherletter"], ["lo"]),
  (["l", "letter"], ["lu", "ll", "lt", "lm", "lo"]),
  (["mn", "nonspacingmark"], ["mn"]),
  (["mc", "spacingmark"], ["mc"]),
  (["me", "enclosingmark"], ["me"]),
  (["m", "mark", "combiningmark"], ["mn", "mc", "me"]),
  (["nd", "decimalnumber", "digit"], ["nd"]),
  (["nl", "letternumber"], ["nl"]),
  (["no", "othernumber"], ["no"]),
  (["n", "number"], ["nd", "nl", "no"]),
  (["pc", "connectorpunctuation"], ["pc"]),
  (["pd", "dashpunctuation"], ["pd"]),
  (["ps", "openpunctuation"], ["ps"]),
  (["pe", "closepunctuation"], ["pe"]),
  (["pi", "initialpunctuation"], ["pi"]),
  (["pf", "finalpunctuation"], ["pf"]),
  (["po", "otherpunctuation"], ["po"]),
  (["p", "punctuation", "punct"], ["pc", "pd", "ps", "pe", "pi", "pf", "po"]),
  (["sm", "mathsymbol"], ["sm"]),
  (["sc", "currencysymbol"], ["sc"]),
  (["sk", "modifiersymbol"], ["sk"]),
  (["so", "othersymbol"], ["so"]),
  (["s", "symbol"], ["sm", "sc", "sk", "so"]),
  (["zs", "spaceseparator"], ["zs"]),
  (["zl", "lineseparator"], ["zl"]),
  (["zp", "paragraphseparator"], ["zp"]),
  (["z", "separator"], ["zs", "zl", "zp"]),
  (["cc", "control", "cntrl"], ["cc"]),
  (["cf", "format"], ["cf"]),
  (["co", "privateuse"], ["co"]),
  (["cn", "unassigned"], ["cn"]),
  (["c", "other"], ["cc", "cf", "co", "cn"])]

def ofCategories (members : List String) : Ranges :=
  members.foldl (fun s member =>
    match categoryTable.lookup member with
    | some text => Ranges.union s (Ranges.ofText text)
    | none => s) []

def category? (name : String) : Option Ranges :=
  match name with
  | "any" => some Ranges.all
  | "ascii" => some [(0, 0x7F)]
  | "assigned" => some (Ranges.compl (ofCategories ["cn"]))
  | _ =>
    (categoryNames.find? fun entry => entry.1.contains name).map fun entry => ofCategories entry.2

end PartitionScan.Pattern
