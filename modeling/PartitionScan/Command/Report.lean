import PartitionScan.Buffer
import PartitionScan.Text.Width

/-!
# Offsets as the user sees them

The user gives a place as an offset or as a line and a column, and is shown lines and display
columns. Both count from 1.
-/
namespace PartitionScan.Command

structure Report where
  buffer : Buffer
  tabWidth : Nat
  width : Char → Nat := Text.width

def unsigned : List Char → List Char
  | '+' :: digits => digits
  | digits => digits

/-- An offset in decimal digits, possibly after a plus sign. -/
def readOffset (cs : List Char) : Option Nat :=
  let digits := unsigned cs
  let n := digits.foldl (fun n d => n * 10 + (d.toNat - 48)) 0
  if digits.isEmpty || !digits.all Char.isDigit || offsetLimit ≤ n then none else some n

namespace Report

/-- The offset that a text gives, as a number or as line and column. A column past the content of
its line is taken for the end of the content. -/
def offset (r : Report) (text : String) : Except Fault Nat :=
  let cs := text.toList
  let bad := Fault.usage (.badPosition text)
  match cs.dropWhile (· != ':') with
  | [] => (readOffset cs).elim (.error bad) .ok
  | _ :: column =>
    match readOffset (cs.takeWhile (· != ':')), readOffset column with
    | some (line + 1), some (column + 1) =>
      (r.buffer.lineRegion line).map fun region => region.offset + min column region.length
    | _, _ => .error bad

def place (r : Report) (offset : Nat) : Except Fault (Nat × Nat) := do
  let line ← r.buffer.lineOfOffset offset
  let start ← r.buffer.lineOffset line
  let column := offset - start
  let shown ←
    match r.buffer.line? line with
    | some l => l.displayColumn r.width r.tabWidth column
    | none => .ok column
  return (line + 1, ← addOffsets shown 1)

def location (r : Report) (offset : Nat) : Except Fault String :=
  (r.place offset).map fun (line, column) => s!"{line}:{column}"

def region (r : Report) (g : Region) : Except Fault String := do
  let first ← r.location g.offset
  let last ← r.location g.finish
  return first ++ "-" ++ last ++ " (" ++ toString g.length ++ " chars)"

end Report

end PartitionScan.Command
