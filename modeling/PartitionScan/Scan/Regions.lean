import PartitionScan.Scan.Query

/-!
# Blanks, words and blocks of lines

Runs of characters around a position, and the whole lines that positions lie on.
-/
namespace PartitionScan.Scan

def nonBlankForward (start : Nat) (bound : Bound) (lineBreakIsBlank : Bool) : Query (Option Nat) :=
  (forwardWith start bound (.nonBlank lineBreakIsBlank)).offset

def nonBlankBackward (start : Nat) (bound : Bound) (lineBreakIsBlank : Bool) : Query (Option Nat) :=
  (backwardWith start bound (.nonBlank lineBreakIsBlank)).offset

/-- The longest run around a position in which a condition does not stop. The run has to go on at
the position, unless `allowClosing` lets it end there. -/
def findRegion (position : Nat) (cond : Condition) (allowClosing : Bool) : Query (Option Region) :=
  fun ctx cur =>
    (ctx.limit .unbound).map fun limit =>
      let origin := toPosition (min position ctx.document.length)
      let ahead := forward ctx limit (cur.moveTo origin) cond
      let finish := ahead.cursor.position
      if allowClosing || origin < finish then
        let behind := backwardFrom ctx (origin - 1) .unbound ahead.cursor ahead.condition
        let start := behind.cursor.position + 1
        if start < finish then (some ⟨toOffset start, (finish - start).toNat⟩, behind.cursor)
        else (none, behind.cursor)
      else (none, ahead.cursor)

def blankRegion (position : Nat) (lineBreakIsBlank : Bool) : Query (Option Region) :=
  findRegion position (.nonBlank lineBreakIsBlank) false

def commonWord (position : Nat) : Query (Option Region) :=
  findRegion position .nonWord false

def isBlankLine (position : Nat) : Query Bool := fun ctx cur => do
  let line ← ctx.document.lineRegionOfOffset position
  if line.isEmpty then return (true, cur)
  let (found, cur) ← nonBlankForward line.offset (.offset line.finish) false ctx cur
  return (found.isNone, cur)

/-- The whole lines from the one of the lower position through the one of the higher, which counts
as the end of the line before if it is the start of a later line. -/
def textBlock (d : Document) (position₁ position₂ : Nat) : Except Fault Region := do
  let low := min position₁ position₂
  let high := max position₁ position₂
  let first ← d.lineOfOffset low
  let reached ← d.lineOfOffset high
  let reachedStart ← d.lineOffset reached
  let last := if first < reached ∧ reachedStart = high then reached - 1 else reached
  let start ← d.lineOffset first
  let finish := (← d.lineOffset last) + (← d.lineLength last)
  return ⟨start, finish - start⟩

def firstLine (d : Document) (r : Region) : Except Fault Nat :=
  d.lineOfOffset r.offset

/-- The line of a region's last character; an empty region lies on the line of its offset. -/
def lastLine (d : Document) (r : Region) : Except Fault Nat :=
  d.lineOfOffset (if r.isEmpty then r.offset else r.finish - 1)

end PartitionScan.Scan
