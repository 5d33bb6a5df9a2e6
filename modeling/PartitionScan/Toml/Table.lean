import PartitionScan.Toml.Value

/-!
# Building tables

Headers and keys add to a growing table. A table may be opened by a header once, may not be opened
after dotted keys have added to it, and dotted keys may not add to what a header has opened.
-/
namespace PartitionScan.Toml

def replaceEntry (key : String) (v : Value) (entries : Entries) : Entries :=
  entries.map fun e => if e.1 == key then (key, v) else e

/-- Changes the table at the end of a path, given the origin and the entries of the table at its
start. Tables on the way that do not exist yet are added. -/
def changeAt (byDottedKey : Bool) (change : Origin → Entries → Option Entries) :
    List String → Origin → Entries → Option Entries
  | [], origin, entries => change origin entries
  | key :: path, _, entries =>
    match entries.lookup key with
    | none =>
      let origin := if byDottedKey then .dotted else .implied
      (changeAt byDottedKey change path origin []).map fun sub =>
        entries ++ [(key, .table origin sub)]
    | some (.table origin sub) =>
      if origin = .literal ∨ (byDottedKey ∧ origin = .header) then none
      else (changeAt byDottedKey change path origin sub).map fun sub =>
        replaceEntry key (.table origin sub) entries
    | some (.array .header rows) =>
      match rows.getLast? with
      | some (.table origin sub) =>
        (changeAt byDottedKey change path origin sub).map fun sub =>
          replaceEntry key (.array .header (rows.dropLast ++ [.table origin sub])) entries
      | _ => none
    | some _ => none

def addValue (path : List String) (key : String) (v : Value) (origin : Origin) (entries : Entries) :
    Option Entries :=
  changeAt true (fun origin entries =>
    if (origin == .dotted) == path.isEmpty || (entries.lookup key).isSome then none
    else some (entries ++ [(key, v)])) path origin entries

def addBelow (header path : List String) (key : String) (v : Value) (root : Entries) :
    Option Entries :=
  changeAt false (addValue path key v) header .header root

/-- Opens a table by its header. A table that is only implied so far keeps its entries. -/
def openTable (path : List String) (key : String) (root : Entries) : Option Entries :=
  changeAt false (fun _ entries =>
    match entries.lookup key with
    | none => some (entries ++ [(key, .table .header [])])
    | some (.table .implied sub) =>
      some (entries.filter (·.1 != key) ++ [(key, .table .header sub)])
    | some _ => none) path .header root

def openRow (path : List String) (key : String) (root : Entries) : Option Entries :=
  changeAt false (fun _ entries =>
    match entries.lookup key with
    | none => some (entries ++ [(key, .array .header [.table .header []])])
    | some (.array .header rows) =>
      some (replaceEntry key (.array .header (rows ++ [.table .header []])) entries)
    | some _ => none) path .header root

end PartitionScan.Toml
