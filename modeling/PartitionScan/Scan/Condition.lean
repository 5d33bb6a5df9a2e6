import PartitionScan.Scan.Context
import PartitionScan.Text.Letters

/-!
# Stop conditions

A condition tells whether a scan stops at a character and where it looks next. Two conditions
remember something from one step to the next: the last escape, and the last partition. Whatever
they remember, the next position is always further on.
-/
namespace PartitionScan.Scan

/-- What a gated condition remembers of the partition it saw last. -/
structure Seen where
  start : Nat
  finish : Nat
  accepted : Bool
  deriving DecidableEq, Repr

/-- When a scan stops: on a member of a set; on an accepted member of a set that no escape
protects; on anything but a blank; on anything that is no part of a word; where a predicate holds;
or where another condition stops in an accepted partition. -/
inductive Condition where
  | among (set : List Char)
  | unescaped (set : List Char) (escape : Char) (lastEscape : Option Int)
  | nonBlank (lineBreakIsBlank : Bool)
  | nonWord
  | satisfying (p : Char → Bool)
  | gated (inner : Condition) (seen : Option Seen)
  deriving Inhabited

/-- The answer of a condition: whether to stop, the condition for the next step, and the offsets at
which the classifier was asked, the latest first. -/
structure Verdict where
  stops : Bool
  condition : Condition
  asked : List Nat := []

namespace Condition

def escaping (set : List Char) (escape : Char) : Condition :=
  .unescaped set escape none

def gate (inner : Condition) : Condition :=
  .gated inner none

def isNonBlank (lineBreakIsBlank : Bool) (c : Char) : Bool :=
  !Text.isBlank c && !(lineBreakIsBlank && (c == '\r' || c == '\n'))

def stop (ctx : Context) (position : Int) (char : Char) : Condition → Verdict
  | .among set => { stops := set.contains char, condition := .among set }
  | .unescaped set escape lastEscape =>
    if lastEscape = some (position - 1) then
      { stops := false, condition := .unescaped set escape lastEscape }
    else if char = escape then
      { stops := false, condition := .unescaped set escape (some position) }
    else if set.contains char then
      { stops := ctx.accepts (toOffset position)
        condition := .unescaped set escape lastEscape
        asked := [toOffset position] }
    else { stops := false, condition := .unescaped set escape lastEscape }
  | .nonBlank lineBreakIsBlank =>
    { stops := isNonBlank lineBreakIsBlank char, condition := .nonBlank lineBreakIsBlank }
  | .nonWord => { stops := !Text.isAlphanumeric char, condition := .nonWord }
  | .satisfying p => { stops := p char, condition := .satisfying p }
  | .gated inner seen =>
    let offset := toOffset position
    if seen.any fun s => s.accepted && s.start ≤ offset && offset < s.finish then
      let v := stop ctx position char inner
      { v with condition := .gated v.condition seen }
    else
      let p := ctx.partition offset
      let accepted := ctx.filter.accepts p.kind
      let now := some { start := p.offset, finish := p.finish, accepted }
      if accepted then
        let v := stop ctx position char inner
        { v with condition := .gated v.condition now, asked := v.asked ++ [offset] }
      else { stops := false, condition := .gated inner now, asked := [offset] }

/-- Where a forward scan looks next: past a rejected partition, else at the next position. -/
def nextForward (position : Int) : Condition → Int
  | .gated inner (some seen) =>
    if seen.accepted then nextForward position inner
    else if position < toPosition seen.finish then toPosition seen.finish
    else position + 1
  | _ => position + 1

/-- Where a backward scan looks next: before a rejected partition, else at the position before. -/
def nextBackward (position : Int) : Condition → Int
  | .gated inner (some seen) =>
    if seen.accepted then nextBackward position inner
    else if toPosition seen.start ≤ position then toPosition seen.start - 1
    else position - 1
  | _ => position - 1

theorem lt_nextForward (position : Int) (c : Condition) : position < c.nextForward position := by
  fun_induction nextForward position c <;> omega

theorem nextBackward_lt (position : Int) (c : Condition) : c.nextBackward position < position := by
  fun_induction nextBackward position c <;> omega

end Condition

end PartitionScan.Scan
