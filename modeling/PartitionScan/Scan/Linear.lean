import PartitionScan.Scan.Condition

/-!
# Linear scans

A scan walks positions in one direction and asks its condition at each of them. A read that fails
ends the scan where it is, for the document may be shorter than it states; a scan that runs out of
positions leaves the cursor at its limit.
-/
namespace PartitionScan.Scan

/-- How a scan ended: whether it stopped, the cursor, and the condition with what it remembers. -/
structure Outcome where
  stopped : Bool
  cursor : Cursor
  condition : Condition

def Outcome.found? (o : Outcome) : Option Nat :=
  if o.stopped then some (toOffset o.cursor.position) else none

def forward (ctx : Context) (limit : Int) (cur : Cursor) (cond : Condition) : Outcome :=
  if cur.position < limit then
    match ctx.charAt cur.position with
    | .error _ => ⟨false, cur, cond⟩
    | .ok c =>
      let v := cond.stop ctx cur.position c
      let cur' := cur.read c v.asked
      if v.stops then ⟨true, cur', v.condition⟩
      else forward ctx limit (cur'.moveTo (v.condition.nextForward cur.position)) v.condition
  else ⟨false, cur.moveTo limit, cond⟩
termination_by (limit - cur.position).toNat
decreasing_by
  have := (cond.stop ctx cur.position c).condition.lt_nextForward cur.position
  simp only [Cursor.position_moveTo]
  omega

def backward (ctx : Context) (limit : Int) (cur : Cursor) (cond : Condition) : Outcome :=
  if limit < cur.position then
    match ctx.charAt cur.position with
    | .error _ => ⟨false, cur, cond⟩
    | .ok c =>
      let v := cond.stop ctx cur.position c
      let cur' := cur.read c v.asked
      if v.stops then ⟨true, cur', v.condition⟩
      else backward ctx limit (cur'.moveTo (v.condition.nextBackward cur.position)) v.condition
  else ⟨false, cur.moveTo limit, cond⟩
termination_by (cur.position - limit).toNat
decreasing_by
  have := (cond.stop ctx cur.position c).condition.nextBackward_lt cur.position
  simp only [Cursor.position_moveTo]
  omega

/-- A forward scan that stops does so at or after where it began and below its limit. -/
theorem forward_stopped (ctx : Context) (limit : Int) (cur : Cursor) (cond : Condition) :
    (forward ctx limit cur cond).stopped →
      cur.position ≤ (forward ctx limit cur cond).cursor.position ∧
        (forward ctx limit cur cond).cursor.position < limit := by
  fun_induction forward ctx limit cur cond with
  | case1 => simp
  | case2 cur cond h => exact fun _ => ⟨Int.le_refl _, h⟩
  | case3 cur cond h c hc v cur' hv ih =>
    intro hs
    have := ih hs
    have := v.condition.lt_nextForward cur.position
    simp only [Cursor.position_moveTo] at *
    omega
  | case4 => simp

/-- A backward scan that stops does so at or before where it began and above its limit. -/
theorem backward_stopped (ctx : Context) (limit : Int) (cur : Cursor) (cond : Condition) :
    (backward ctx limit cur cond).stopped →
      (backward ctx limit cur cond).cursor.position ≤ cur.position ∧
        limit < (backward ctx limit cur cond).cursor.position := by
  fun_induction backward ctx limit cur cond with
  | case1 => simp
  | case2 cur cond h => exact fun _ => ⟨Int.le_refl _, h⟩
  | case3 cur cond h c hc v cur' hv ih =>
    intro hs
    have := ih hs
    have := v.condition.nextBackward_lt cur.position
    simp only [Cursor.position_moveTo] at *
    omega
  | case4 => simp

structure Stops where
  offsets : List Nat
  cursor : Cursor
  condition : Condition

/-- All stops from the cursor up to the limit, in order. No scan begins at the limit. -/
def stopsUpTo (ctx : Context) (limit : Int) (cur : Cursor) (cond : Condition) : Stops :=
  let o := forward ctx limit cur cond
  if _h : o.stopped then
    let next := o.cursor.position + 1
    if next < limit then
      let rest := stopsUpTo ctx limit (o.cursor.moveTo next) o.condition
      { rest with offsets := toOffset o.cursor.position :: rest.offsets }
    else ⟨[toOffset o.cursor.position], o.cursor, o.condition⟩
  else ⟨[], o.cursor, o.condition⟩
termination_by (limit - cur.position).toNat
decreasing_by
  have := forward_stopped ctx limit cur cond _h
  simp only [Cursor.position_moveTo]
  omega

/-- All stops in `[start, finish)`; if there is no offset in it, the cursor stays. -/
def stopsIn (ctx : Context) (start finish : Nat) (cur : Cursor) (cond : Condition) :
    Except Fault Stops :=
  if start < finish then
    (ctx.limit (.offset finish)).map fun limit =>
      stopsUpTo ctx limit (cur.moveTo (toPosition start)) cond
  else .ok ⟨[], cur, cond⟩

end PartitionScan.Scan
