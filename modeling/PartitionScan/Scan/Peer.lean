import PartitionScan.CharPair
import PartitionScan.Scan.Query

/-!
# Peers of brackets and quotes

The peer of a bracket is found by counting depth from stop to stop. Escapes can only be recognised
reading forward, so that going back every line is read forward and its stops are used in reverse.
-/
namespace PartitionScan.Scan

def closingFrom (ctx : Context) (pair : CharPair) (limit : Int) (depth : Nat) (cur : Cursor)
    (cond : Condition) : Option Nat × Cursor :=
  let o := forward ctx limit cur cond
  if _h : o.stopped then
    let depth := pair.depthAfter pair.opening depth o.cursor.char
    if depth = 0 then (o.found?, o.cursor)
    else closingFrom ctx pair limit depth (o.cursor.moveTo (o.cursor.position + 1)) o.condition
  else (none, o.cursor)
termination_by (limit - cur.position).toNat
decreasing_by
  have := forward_stopped ctx limit cur cond _h
  simp only [Cursor.position_moveTo]
  omega

def openingFrom (ctx : Context) (pair : CharPair) (limit : Int) (depth : Nat) (cur : Cursor)
    (cond : Condition) : Option Nat × Cursor :=
  let o := backward ctx limit cur cond
  if _h : o.stopped then
    let depth := pair.depthAfter pair.closing depth o.cursor.char
    if depth = 0 then (o.found?, o.cursor)
    else openingFrom ctx pair limit depth (o.cursor.moveTo (o.cursor.position - 1)) o.condition
  else (none, o.cursor)
termination_by (cur.position - limit).toNat
decreasing_by
  have := backward_stopped ctx limit cur cond _h
  simp only [Cursor.position_moveTo]
  omega

/-- The closing peer of the opening character at `start`, where `cond` tells which characters count.
-/
def closingPeerWith (start : Nat) (pair : CharPair) (cond : Condition) : Query (Option Nat) :=
  fun ctx cur =>
    let length := ctx.document.length
    if start < length then
      (ctx.limit .unbound).map fun limit =>
        closingFrom ctx pair limit 1 (cur.moveTo (toPosition (min (start + 1) length))) cond
    else .ok (none, cur)

/-- The closing peer of the opening character at `start`. Pairs in accepted partitions nest; all
else is passed over. -/
def closingPeer (start : Nat) (pair : CharPair) : Query (Option Nat) :=
  closingPeerWith start pair (.gate (.among pair.chars))

/-- The closing peer, where a character after an escape does not count. Escapes count in every
partition. -/
def closingPeerEscaped (start : Nat) (pair : CharPair) (escape : Char) : Query (Option Nat) :=
  closingPeerWith start pair (.escaping pair.chars escape)

/-- The opening peer of the closing character at `start`. A start past the end is taken for the end.
-/
def openingPeer (start : Nat) (pair : CharPair) : Query (Option Nat) := fun ctx cur =>
  let position := toPosition (min start ctx.document.length) - 1
  .ok (openingFrom ctx pair (-1) 1 (cur.moveTo position) (.gate (.among pair.chars)))

structure LineStops where
  offsets : List Nat
  above : Nat
  cursor : Cursor
  condition : Condition

/-- The stops above the bound on the nearest of the first `lines` lines that has any. Each line is
read from its start up to `finish`, which above the first line is the start of the line below. -/
def nearestStops (ctx : Context) (bound : Int) :
    Nat → Nat → Cursor → Condition → Except Fault LineStops
  | 0, _, cur, cond => .ok ⟨[], 0, cur, cond⟩
  | line + 1, finish, cur, cond =>
    match ctx.document.lineOffset line with
    | .error e => .error e
    | .ok start =>
      match stopsIn ctx start finish cur cond with
      | .error e => .error e
      | .ok stops =>
        let kept := stops.offsets.filter fun n : Nat => bound < toPosition n
        if !kept.isEmpty || toPosition start ≤ bound then
          .ok ⟨kept, line, stops.cursor, stops.condition⟩
        else nearestStops ctx bound line start stops.cursor stops.condition

theorem nearestStops_above {ctx : Context} {bound : Int} {lines finish : Nat} {cur : Cursor}
    {cond : Condition} {r : LineStops} (h : nearestStops ctx bound lines finish cur cond = .ok r)
    (hr : r.offsets ≠ []) : r.above < lines := by
  induction lines generalizing finish cur cond with
  | zero =>
    simp only [nearestStops, Except.ok.injEq] at h
    subst h
    simp at hr
  | succ line ih =>
    rw [nearestStops] at h
    split at h
    · simp at h
    · split at h
      · simp at h
      · simp only at h
        split at h
        · simp only [Except.ok.injEq] at h
          subst h
          exact Nat.lt_succ_self _
        · exact Nat.lt_succ_of_lt (ih h)

/-- Walks stops from the last to the first, given in that order: the one that brings the depth down
to 0, and the depth after all of them otherwise. -/
def unwind (ctx : Context) (pair : CharPair) : Nat → List Nat → Except Fault (Option Nat × Nat)
  | depth, [] => .ok (none, depth)
  | depth, offset :: rest =>
    match ctx.document.charAt offset with
    | .error e => .error e
    | .ok c =>
      let depth := pair.depthAfter pair.closing depth c
      if depth = 0 then .ok (some offset, 0) else unwind ctx pair depth rest

def openingEscapedFrom (ctx : Context) (pair : CharPair) (depth lines finish : Nat) (cur : Cursor)
    (cond : Condition) : Except Fault (Option Nat × Cursor) :=
  match _h : nearestStops ctx (-1) lines finish cur cond with
  | .error e => .error e
  | .ok r =>
    if _hr : r.offsets = [] then .ok (none, r.cursor)
    else
      match unwind ctx pair depth r.offsets.reverse with
      | .error e => .error e
      | .ok (some peer, _) => .ok (some peer, r.cursor)
      | .ok (none, depth) =>
        match ctx.document.lineOffset r.above with
        | .error e => .error e
        | .ok start => openingEscapedFrom ctx pair depth r.above start r.cursor r.condition
termination_by lines
decreasing_by exact nearestStops_above _h _hr

/-- The opening peer, where a character after an escape does not count. Where the text ends before
the start nothing is found. -/
def openingPeerEscaped (start : Nat) (pair : CharPair) (escape : Char) : Query (Option Nat) :=
  fun ctx cur =>
    let start := min start ctx.document.length
    let found := do
      let line ← ctx.document.lineOfOffset start
      openingEscapedFrom ctx pair 1 (line + 1) start cur (.escaping pair.chars escape)
    match found with
    | .ok r => .ok r
    | .error (.boundBeyondEnd bound length) => .error (.boundBeyondEnd bound length)
    | .error _ => .ok (none, cur)

end PartitionScan.Scan
