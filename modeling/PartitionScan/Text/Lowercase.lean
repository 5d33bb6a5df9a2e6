import PartitionScan.Text.Cased
import PartitionScan.Text.CaseIgnorable
import PartitionScan.Text.LowerRuns

/-!
# Lower case

The lower case form of a text. A capital sigma at the end of a word becomes a final sigma, and the
dotted capital I keeps its dot as a combining mark; every other character is mapped on its own.
-/
namespace PartitionScan.Text

def lowerChar (c : Char) : List Char :=
  if c == '\u0130' then ['i', '\u0307'] else [Char.ofNat (CaseRun.apply lowerRuns c.toNat)]

/-- Whether, past any case-ignorable characters, the next character is cased. -/
def meetsCased (cs : List Char) : Bool :=
  match cs.dropWhile caseIgnorable.hasChar with
  | c :: _ => casedRanges.hasChar c
  | [] => false

/-- Lower case of `rest`, where `before` holds the characters already passed, nearest first. -/
def lowerFrom (before : List Char) : List Char → List Char
  | [] => []
  | c :: rest =>
    let low :=
      if c == '\u03A3' then
        [if meetsCased before && !meetsCased rest then '\u03C2' else '\u03C3']
      else lowerChar c
    low ++ lowerFrom (c :: before) rest

def lowercase (s : String) : String :=
  String.ofList (lowerFrom [] s.toList)

end PartitionScan.Text
