import PartitionScan.Toml.DateTable
import PartitionScan.Toml.Lexeme
import PartitionScan.Toml.Table

/-!
# Reading TOML

Values, and documents as lines of headers and keys with values.
-/
namespace PartitionScan.Toml

mutual

def readValue : Nat → Nat → List Char → Option (Value × List Char)
  | 0, _, _ => none
  | fuel + 1, depth, cs =>
    match cs with
    | '"' :: _ => (readString cs).map fun (s, rest) => (.string s, rest)
    | '\x27' :: _ => (readString cs).map fun (s, rest) => (.string s, rest)
    | '[' :: rest =>
      if depth + 1 < depthLimit then
        (readItems fuel (depth + 1) rest).map fun (items, rest) => (.array .literal items, rest)
      else none
    | '\x7b' :: rest =>
      if depth + 1 < depthLimit then
        match skipBlanks rest with
        | '\x7d' :: rest => some (.table .literal [], rest)
        | rest =>
          (readPairs fuel (depth + 1) [] rest).map
            fun (entries, rest) => (.table .literal entries, rest)
      else none
    | 't' :: 'r' :: 'u' :: 'e' :: rest => some (.boolean true, rest)
    | 'f' :: 'a' :: 'l' :: 's' :: 'e' :: rest => some (.boolean false, rest)
    | _ => readNumber cs

def readItems : Nat → Nat → List Char → Option (List Value × List Char)
  | 0, _, _ => none
  | fuel + 1, depth, cs =>
    match skipGaps false cs with
    | ']' :: rest => some ([], rest)
    | cs =>
      match readValue fuel depth cs with
      | none => none
      | some (v, rest) =>
        match skipGaps false rest with
        | ',' :: rest =>
          (readItems fuel depth rest).map fun (items, rest) => (v :: items, rest)
        | ']' :: rest => some ([v], rest)
        | _ => none

def readPairs : Nat → Nat → Entries → List Char → Option (Entries × List Char)
  | 0, _, _, _ => none
  | fuel + 1, depth, entries, cs =>
    match readKey cs with
    | some ((path, key), '=' :: rest) =>
      match readValue fuel depth (skipBlanks rest) with
      | none => none
      | some (v, rest) =>
        match addValue path key v .literal entries with
        | none => none
        | some entries =>
          match skipBlanks rest with
          | ',' :: rest => readPairs fuel depth entries rest
          | '\x7d' :: rest => some (entries, rest)
          | _ => none
    | _ => none

end

def readHeader (close : List Char) (cs : List Char) :
    Option ((List String × String) × List Char) :=
  match readKey cs with
  | none => none
  | some (key, rest) =>
    if close.isPrefixOf rest then
      (readLineEnd (rest.drop close.length)).map fun rest => (key, rest)
    else none

def readPair (cs : List Char) : Option ((List String × String) × Value × List Char) :=
  match readKey cs with
  | some (key, '=' :: rest) =>
    match readValue (rest.length + 1) 0 (skipBlanks rest) with
    | none => none
    | some (v, rest) => (readLineEnd rest).map fun rest => (key, v, rest)
  | _ => none

/-- The rest of a document. `header` is the path of the table that the last header has opened. -/
def readLines : Nat → List String → Entries → List Char → Option Entries
  | 0, _, _, _ => none
  | fuel + 1, header, root, cs =>
    match skipBlanks cs with
    | [] => some root
    | '[' :: '[' :: rest =>
      match readHeader [']', ']'] rest with
      | none => none
      | some ((path, key), rest) =>
        match openRow path key root with
        | none => none
        | some root => readLines fuel (path ++ [key]) root rest
    | '[' :: rest =>
      match readHeader [']'] rest with
      | none => none
      | some ((path, key), rest) =>
        match openTable path key root with
        | none => none
        | some root => readLines fuel (path ++ [key]) root rest
    | c :: rest =>
      if c == '#' || c == '\n' || c == '\r' then
        match readLineEnd (c :: rest) with
        | none => none
        | some rest => readLines fuel header root rest
      else
        match readPair (c :: rest) with
        | none => none
        | some ((path, key), v, rest) =>
          match addBelow header path key v root with
          | none => none
          | some root => readLines fuel header root rest

/-- The entries of a document, if it is well formed. A byte order mark may stand in front. -/
def readDocument (text : String) : Option Entries :=
  let cs :=
    match text.toList with
    | '\uFEFF' :: rest => rest
    | cs => cs
  (readLines (cs.length + 1) [] [] cs).bind entriesWithDates

end PartitionScan.Toml
