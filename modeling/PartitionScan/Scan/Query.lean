import PartitionScan.Scan.Linear

/-!
# Scan queries

A query answers something about a document and moves the cursor. The plain queries look for
characters in one direction or count them.
-/
namespace PartitionScan.Scan

/-- What a query gives for a context and a cursor: its answer and the cursor after it, or a fault,
in which case the cursor has not moved. -/
abbrev Query (α : Type) := Context → Cursor → Except Fault (α × Cursor)

/-- The lowest offset in `[start, bound)` where a condition stops, and the condition after the scan.
-/
def forwardWith (start : Nat) (bound : Bound) (cond : Condition) :
    Query (Option Nat × Condition) := fun ctx cur =>
  (ctx.limit bound).map fun limit =>
    let first := toPosition (min start (bound.above ctx.document.length))
    let o := forward ctx limit (cur.moveTo first) cond
    ((o.found?, o.condition), o.cursor)

/-- A backward scan from a position; nothing is read if the document states that it is empty. -/
def backwardFrom (ctx : Context) (position : Int) (bound : Bound) (cur : Cursor)
    (cond : Condition) : Outcome :=
  if ctx.document.isEmpty then ⟨false, cur.moveTo bound.below, cond⟩
  else backward ctx bound.below (cur.moveTo position) cond

/-- The highest offset in `(bound, start]` where a condition stops, and the condition after the
scan. -/
def backwardWith (start : Nat) (bound : Bound) (cond : Condition) :
    Query (Option Nat × Condition) := fun ctx cur =>
  let o := backwardFrom ctx (min start lastPosition : Nat) bound cur cond
  .ok ((o.found?, o.condition), o.cursor)

def Query.offset (q : Query (Option Nat × Condition)) : Query (Option Nat) := fun ctx cur =>
  (q ctx cur).map fun r => (r.1.1, r.2)

def forwardAny (start : Nat) (bound : Bound) (chars : List Char) : Query (Option Nat) :=
  (forwardWith start bound (.gate (.among chars))).offset

def backwardAny (start : Nat) (bound : Bound) (chars : List Char) : Query (Option Nat) :=
  (backwardWith start bound (.gate (.among chars))).offset

def count (start finish : Nat) (char : Char) : Query Nat := fun ctx cur =>
  (stopsIn ctx start (min finish ctx.document.length) cur (.gate (.among [char]))).map
    fun stops => (stops.offsets.length, stops.cursor)

end PartitionScan.Scan
