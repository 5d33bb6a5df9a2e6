import PartitionScan.Partition

/-!
# What a scan works with

A scan reads a document through a classifier and a filter, and moves a cursor over it.
-/
namespace PartitionScan.Scan

structure Context where
  document : Document
  classifier : Classifier
  filter : Filter

namespace Context

/-- The partition at an offset, or an empty placeholder if classification fails. -/
def partition (ctx : Context) (offset : Nat) : Partition :=
  match ctx.classifier.partitionAt ctx.document offset with
  | .ok p => p
  | .error _ => .missing offset

def kind? (ctx : Context) (offset : Nat) : Option String :=
  (ctx.classifier.kindAt ctx.document offset).toOption

def accepts (ctx : Context) (offset : Nat) : Bool :=
  ctx.filter.accepts ((ctx.kind? offset).getD missingKind)

def charAt (ctx : Context) (position : Int) : Except Fault Char :=
  ctx.document.charAt (toOffset position)

end Context

/-- Where the most recent scan step was, the character last read, and the offsets at which the
classifier has been asked, the latest first. -/
structure Cursor where
  position : Int := 0
  char : Char := '\x00'
  asked : List Nat := []
  deriving DecidableEq, Repr, Inhabited

def Cursor.moveTo (cur : Cursor) (position : Int) : Cursor :=
  { cur with position }

@[simp] theorem Cursor.position_moveTo (cur : Cursor) (p : Int) : (cur.moveTo p).position = p := rfl

@[simp] theorem Cursor.asked_moveTo (cur : Cursor) (p : Int) :
    (cur.moveTo p).asked = cur.asked := rfl

def Cursor.read (cur : Cursor) (char : Char) (asked : List Nat) : Cursor :=
  { cur with char, asked := asked ++ cur.asked }

@[simp] theorem Cursor.position_read (cur : Cursor) (c : Char) (asked : List Nat) :
    (cur.read c asked).position = cur.position := rfl

@[simp] theorem Cursor.asked_read (cur : Cursor) (c : Char) (asked : List Nat) :
    (cur.read c asked).asked = asked ++ cur.asked := rfl

/-- The limit of a scan: it visits positions below the limit going forward and positions above it
going backward. -/
inductive Bound where
  | unbound
  | offset (n : Nat)
  deriving DecidableEq, Repr, Inhabited

def Bound.above (length : Nat) : Bound → Nat
  | .unbound => length
  | .offset n => n

def Bound.below : Bound → Int
  | .unbound => -1
  | .offset n => toPosition n

/-- The position that limits a forward scan. The bound must not lie beyond the stated end. -/
def Context.limit (ctx : Context) (bound : Bound) : Except Fault Int :=
  let n := bound.above ctx.document.length
  if n ≤ ctx.document.length then .ok (toPosition n)
  else .error (.boundBeyondEnd n ctx.document.length)

@[simp] theorem Context.limit_unbound (ctx : Context) :
    ctx.limit .unbound = .ok (toPosition ctx.document.length) := by
  simp [limit, Bound.above]

theorem Context.limit_offset (ctx : Context) (n : Nat) (h : n ≤ ctx.document.length) :
    ctx.limit (.offset n) = .ok (toPosition n) := by
  simp [limit, Bound.above, h]

end PartitionScan.Scan
