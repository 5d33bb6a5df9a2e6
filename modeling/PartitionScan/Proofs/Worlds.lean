import PartitionScan.Proofs.Directions
import PartitionScan.Loop

/-!
# Searches in an unknown world

Of a document and its classifier nothing is taken for granted here: reads answer anything, and a
query may be answered by any partition, also by one that is empty or elsewhere, and by another one
each time. The searches are loops that take one turn for each position or line they have left, and
one for the end. Whatever a condition remembers, the next look is further on, so that no loop needs
more turns.
-/
namespace PartitionScan.Scan

/-- A document and a classifier of which nothing is known. An answer of the classifier may depend on
all offsets that it has been asked before, the latest first. -/
structure World where
  document : Document
  answer : List Nat → Nat → Except Fault Partition
  filter : Filter

namespace World

variable (w : World)

/-- What a condition works with between two queries: the next one is answered after those so far. -/
def after (asked : List Nat) : Context :=
  ⟨w.document, ⟨"", fun _ offset => w.answer asked offset⟩, w.filter⟩

/-- Whether to stop at a character, which stands at a position, after some queries. A condition
within a gate is asked after the gate. -/
def look (position : Int) (char : Char) (asked : List Nat) : Condition → Verdict
  | .gated inner seen =>
    let offset := toOffset position
    if seen.any fun s => s.accepted && s.start ≤ offset && offset < s.finish then
      let v := look position char asked inner
      { v with condition := .gated v.condition seen }
    else
      let p := (w.after asked).partition offset
      let accepted := w.filter.accepts p.kind
      let now := some { start := p.offset, finish := p.finish, accepted }
      if accepted then
        let v := look position char (offset :: asked) inner
        { v with condition := .gated v.condition now, asked := v.asked ++ [offset] }
      else { stops := false, condition := .gated inner now, asked := [offset] }
  | cond => cond.stop (w.after asked) position char

def scanTurn (d : Direction) (limit : Int) :
    Cursor × Condition → Option ((Cursor × Condition) ⊕ Outcome)
  | (cur, cond) =>
    if 0 < d.left limit cur.position then
      match w.document.charAt (toOffset cur.position) with
      | .error _ => some (.inr ⟨false, cur, cond⟩)
      | .ok c =>
        let v := w.look cur.position c cur.asked cond
        let cur' := cur.read c v.asked
        if v.stops then some (.inr ⟨true, cur', v.condition⟩)
        else some (.inl (cur'.moveTo (d.next cur.position v.condition), v.condition))
    else some (.inr ⟨false, cur.moveTo limit, cond⟩)

def scan (d : Direction) (limit : Int) (cur : Cursor) (cond : Condition) : Option Outcome :=
  loop (w.scanTurn d limit) (d.left limit cur.position + 1) (cur, cond)

def peerTurn (d : Direction) (pair : CharPair) (limit : Int) :
    Nat × Cursor × Condition → Option ((Nat × Cursor × Condition) ⊕ (Option Nat × Cursor))
  | (depth, cur, cond) => do
    let o ← w.scan d limit cur cond
    if o.stopped then
      let depth := pair.depthAfter (d.deeper pair) depth o.cursor.char
      if depth = 0 then return .inr (o.found?, o.cursor)
      else return .inl (depth, o.cursor.moveTo (d.step o.cursor.position), o.condition)
    else return .inr (none, o.cursor)

def peer (d : Direction) (pair : CharPair) (limit : Int) (depth : Nat) (cur : Cursor)
    (cond : Condition) : Option (Option Nat × Cursor) :=
  loop (w.peerTurn d pair limit) (d.left limit cur.position + 1) (depth, cur, cond)

def stopsTurn (limit : Int) :
    List Nat × Cursor × Condition → Option ((List Nat × Cursor × Condition) ⊕ Stops)
  | (offsets, cur, cond) => do
    let o ← w.scan .forward limit cur cond
    if o.stopped then
      let next := o.cursor.position + 1
      let offsets := offsets ++ [toOffset o.cursor.position]
      if next < limit then return .inl (offsets, o.cursor.moveTo next, o.condition)
      else return .inr ⟨offsets, o.cursor, o.condition⟩
    else return .inr ⟨offsets, o.cursor, o.condition⟩

def stopsUpTo (limit : Int) (cur : Cursor) (cond : Condition) : Option Stops :=
  loop (w.stopsTurn limit) (Direction.forward.left limit cur.position + 1) ([], cur, cond)

def stopsIn (start finish : Nat) (cur : Cursor) (cond : Condition) : Option (Except Fault Stops) :=
  if start < finish then
    match (w.after cur.asked).limit (.offset finish) with
    | .error e => some (.error e)
    | .ok limit => (w.stopsUpTo limit (cur.moveTo (toPosition start)) cond).map .ok
  else some (.ok ⟨[], cur, cond⟩)

def nearestTurn (bound : Int) : Nat × Nat × Cursor × Condition →
    Option ((Nat × Nat × Cursor × Condition) ⊕ Except Fault LineStops)
  | (0, _, cur, cond) => some (.inr (.ok ⟨[], 0, cur, cond⟩))
  | (line + 1, finish, cur, cond) =>
    match w.document.lineOffset line with
    | .error e => some (.inr (.error e))
    | .ok start => do
      match ← w.stopsIn start finish cur cond with
      | .error e => return .inr (.error e)
      | .ok stops =>
        let kept := stops.offsets.filter fun n : Nat => bound < toPosition n
        if !kept.isEmpty || toPosition start ≤ bound then
          return .inr (.ok ⟨kept, line, stops.cursor, stops.condition⟩)
        else return .inl (line, start, stops.cursor, stops.condition)

def nearestStops (bound : Int) (lines finish : Nat) (cur : Cursor) (cond : Condition) :
    Option (Except Fault LineStops) :=
  loop (w.nearestTurn bound) (lines + 1) (lines, finish, cur, cond)

def escapedTurn (pair : CharPair) : Nat × Nat × Nat × Cursor × Condition →
    Option ((Nat × Nat × Nat × Cursor × Condition) ⊕ Except Fault (Option Nat × Cursor))
  | (depth, lines, finish, cur, cond) => do
    match ← w.nearestStops (-1) lines finish cur cond with
    | .error e => return .inr (.error e)
    | .ok r =>
      if r.offsets = [] then return .inr (.ok (none, r.cursor))
      else
        match unwind (w.after r.cursor.asked) pair depth r.offsets.reverse with
        | .error e => return .inr (.error e)
        | .ok (some peer, _) => return .inr (.ok (some peer, r.cursor))
        | .ok (none, depth) =>
          match w.document.lineOffset r.above with
          | .error e => return .inr (.error e)
          | .ok start => return .inl (depth, r.above, start, r.cursor, r.condition)

def openingEscapedFrom (pair : CharPair) (depth lines finish : Nat) (cur : Cursor)
    (cond : Condition) : Option (Except Fault (Option Nat × Cursor)) :=
  loop (w.escapedTurn pair) (lines + 1) (depth, lines, finish, cur, cond)

abbrev Query (α : Type) := Cursor → Option (Except Fault (α × Cursor))

def forwardWith (start : Nat) (bound : Bound) (cond : Condition) :
    Query (Option Nat × Condition) := fun cur =>
  match (w.after cur.asked).limit bound with
  | .error e => some (.error e)
  | .ok limit =>
    (w.scan .forward limit
      (cur.moveTo (toPosition (min start (bound.above w.document.length)))) cond).map
      fun o => .ok ((o.found?, o.condition), o.cursor)

def backwardWith (start : Nat) (bound : Bound) (cond : Condition) :
    Query (Option Nat × Condition) := fun cur =>
  if w.document.isEmpty then some (.ok ((none, cond), cur.moveTo bound.below))
  else
    (w.scan .backward bound.below (cur.moveTo (min start lastPosition : Nat)) cond).map
      fun o => .ok ((o.found?, o.condition), o.cursor)

def count (start finish : Nat) (char : Char) : Query Nat := fun cur =>
  (w.stopsIn start (min finish w.document.length) cur (.gate (.among [char]))).map
    (Except.map fun stops => (stops.offsets.length, stops.cursor))

def closingPeerWith (start : Nat) (pair : CharPair) (cond : Condition) :
    Query (Option Nat) := fun cur =>
  if start < w.document.length then
    match (w.after cur.asked).limit .unbound with
    | .error e => some (.error e)
    | .ok limit =>
      (w.peer .forward pair limit 1
        (cur.moveTo (toPosition (min (start + 1) w.document.length))) cond).map .ok
  else some (.ok (none, cur))

def openingPeerWith (start : Nat) (pair : CharPair) (cond : Condition) :
    Query (Option Nat) := fun cur =>
  (w.peer .backward pair (-1) 1
    (cur.moveTo (toPosition (min start w.document.length) - 1)) cond).map .ok

def openingPeerEscaped (start : Nat) (pair : CharPair) (escape : Char) :
    Query (Option Nat) := fun cur =>
  let start := min start w.document.length
  match w.document.lineOfOffset start with
  | .error (.boundBeyondEnd bound length) => some (.error (.boundBeyondEnd bound length))
  | .error _ => some (.ok (none, cur))
  | .ok line =>
    (w.openingEscapedFrom pair 1 (line + 1) start cur (.escaping pair.chars escape)).map fun
      | .ok r => .ok r
      | .error (.boundBeyondEnd bound length) => .error (.boundBeyondEnd bound length)
      | .error _ => .ok (none, cur)

section

variable {w : World}

/-- One position of a scan: there are fewer left, or the scan ends. Where it stops is one of them.
-/
theorem scanTurn_step (d : Direction) (limit : Int) (n : Nat) (s : Cursor × Condition)
    (hs : d.left limit s.1.position ≤ n) : ∃ next, w.scanTurn d limit s = some next ∧
      next.elim (fun s' => d.left limit s'.1.position ≤ n ∧
          d.left limit s'.1.position < d.left limit s.1.position)
        fun o => o.stopped →
          0 < d.left limit o.cursor.position ∧ d.left limit o.cursor.position ≤ n := by
  obtain ⟨cur, cond⟩ := s
  rw [scanTurn]
  by_cases hleft : 0 < d.left limit cur.position
  · rw [if_pos hleft]
    cases w.document.charAt (toOffset cur.position) with
    | error e => exact ⟨_, rfl, nofun⟩
    | ok c =>
      simp only
      split
      · exact ⟨_, rfl, fun _ => ⟨hleft, hs⟩⟩
      · have hlt := d.left_next_lt (w.look cur.position c cur.asked cond).condition hleft
        exact ⟨_, rfl, Nat.le_trans (Nat.le_of_lt hlt) hs, hlt⟩
  · rw [if_neg hleft]
    exact ⟨_, rfl, nofun⟩

theorem scan_ends (d : Direction) (limit : Int) (cur : Cursor) (cond : Condition) :
    ∃ o, w.scan d limit cur cond = some o ∧ (o.stopped → 0 < d.left limit o.cursor.position ∧
      d.left limit o.cursor.position ≤ d.left limit cur.position) :=
  loop_spec (fun s => d.left limit s.1.position) (scanTurn_step d limit _) (Nat.le_refl _)
    (Nat.lt_succ_self _)

/-- One stop of a search for a peer leaves fewer positions than the one before. -/
theorem peerTurn_step (d : Direction) (pair : CharPair) (limit : Int)
    (s : Nat × Cursor × Condition) :
    ∃ next, w.peerTurn d pair limit s = some next ∧
      next.elim (fun s' => d.left limit s'.2.1.position < d.left limit s.2.1.position)
        fun _ => True := by
  obtain ⟨depth, cur, cond⟩ := s
  obtain ⟨o, ho, hstops⟩ := w.scan_ends d limit cur cond
  simp only [peerTurn, ho, Option.bind_eq_bind, Option.bind_some, Option.pure_def]
  split
  next hstopped =>
    obtain ⟨hleft, hle⟩ := hstops hstopped
    split
    · exact ⟨_, rfl, trivial⟩
    · exact ⟨_, rfl, Nat.lt_of_lt_of_le (d.left_step_lt hleft) hle⟩
  next => exact ⟨_, rfl, trivial⟩

theorem peer_ends (d : Direction) (pair : CharPair) (limit : Int) (depth : Nat) (cur : Cursor)
    (cond : Condition) : ∃ r, w.peer d pair limit depth cur cond = some r :=
  loop_ends (fun s => d.left limit s.2.1.position) (peerTurn_step d pair limit) (Nat.lt_succ_self _)

theorem stopsTurn_step (limit : Int) (s : List Nat × Cursor × Condition) :
    ∃ next, w.stopsTurn limit s = some next ∧
      next.elim (fun s' => Direction.forward.left limit s'.2.1.position <
        Direction.forward.left limit s.2.1.position) fun _ => True := by
  obtain ⟨offsets, cur, cond⟩ := s
  obtain ⟨o, ho, hstops⟩ := w.scan_ends .forward limit cur cond
  simp only [stopsTurn, ho, Option.bind_eq_bind, Option.bind_some, Option.pure_def]
  split
  next hstopped =>
    obtain ⟨hleft, hle⟩ := hstops hstopped
    split
    · exact ⟨_, rfl, Nat.lt_of_lt_of_le (Direction.forward.left_step_lt hleft) hle⟩
    · exact ⟨_, rfl, trivial⟩
  next => exact ⟨_, rfl, trivial⟩

theorem stopsUpTo_ends (limit : Int) (cur : Cursor) (cond : Condition) :
    ∃ stops, w.stopsUpTo limit cur cond = some stops :=
  loop_ends (fun s => Direction.forward.left limit s.2.1.position) (stopsTurn_step limit)
    (Nat.lt_succ_self _)

theorem stopsIn_ends (start finish : Nat) (cur : Cursor) (cond : Condition) :
    ∃ r, w.stopsIn start finish cur cond = some r := by
  rw [stopsIn]
  split
  · cases (w.after cur.asked).limit (.offset finish) with
    | error e => exact ⟨_, rfl⟩
    | ok limit =>
      obtain ⟨stops, hstops⟩ := w.stopsUpTo_ends limit (cur.moveTo (toPosition start)) cond
      exact ⟨.ok stops, by simp only [hstops, Option.map_some]⟩
  · exact ⟨_, rfl⟩

/-- One line leaves fewer lines, or the search ends. Where there are stops, the lines above are
fewer. -/
theorem nearestTurn_step (bound : Int) (lines : Nat) (s : Nat × Nat × Cursor × Condition)
    (hs : s.1 ≤ lines) : ∃ next, w.nearestTurn bound s = some next ∧
      next.elim (fun s' => s'.1 ≤ lines ∧ s'.1 < s.1)
        fun r => ∀ found, r = .ok found → found.offsets ≠ [] → found.above < lines := by
  obtain ⟨_ | line, finish, cur, cond⟩ := s
  · refine ⟨_, rfl, ?_⟩
    rintro _ ⟨⟩ hne
    exact absurd rfl hne
  · have hline : line < lines := hs
    rw [nearestTurn]
    cases w.document.lineOffset line with
    | error e => exact ⟨_, rfl, nofun⟩
    | ok start =>
      obtain ⟨stops, hstops⟩ := w.stopsIn_ends start finish cur cond
      simp only [hstops, Option.bind_eq_bind, Option.bind_some, Option.pure_def]
      cases stops with
      | error e => exact ⟨_, rfl, nofun⟩
      | ok stops =>
        simp only
        split
        · refine ⟨_, rfl, ?_⟩
          rintro _ ⟨⟩ -
          exact hline
        · exact ⟨_, rfl, Nat.le_of_lt hline, Nat.lt_succ_self line⟩

theorem nearestStops_ends (bound : Int) (lines finish : Nat) (cur : Cursor) (cond : Condition) :
    ∃ r, w.nearestStops bound lines finish cur cond = some r ∧
      ∀ found, r = .ok found → found.offsets ≠ [] → found.above < lines :=
  loop_spec (fun s => s.1) (nearestTurn_step bound lines) (Nat.le_refl _) (Nat.lt_succ_self _)

theorem escapedTurn_step (pair : CharPair) (s : Nat × Nat × Nat × Cursor × Condition) :
    ∃ next, w.escapedTurn pair s = some next ∧
      next.elim (fun s' => s'.2.1 < s.2.1) fun _ => True := by
  obtain ⟨depth, lines, finish, cur, cond⟩ := s
  obtain ⟨r, hr, habove⟩ := w.nearestStops_ends (-1) lines finish cur cond
  simp only [escapedTurn, hr, Option.bind_eq_bind, Option.bind_some, Option.pure_def]
  cases r with
  | error e => exact ⟨_, rfl, trivial⟩
  | ok r =>
    simp only
    by_cases hnil : r.offsets = []
    · rw [if_pos hnil]
      exact ⟨_, rfl, trivial⟩
    · rw [if_neg hnil]
      cases unwind (w.after r.cursor.asked) pair depth r.offsets.reverse with
      | error e => exact ⟨_, rfl, trivial⟩
      | ok found =>
        obtain ⟨_ | peer, depth⟩ := found
        · simp only
          cases w.document.lineOffset r.above with
          | error e => exact ⟨_, rfl, trivial⟩
          | ok start => exact ⟨_, rfl, habove r rfl hnil⟩
        · exact ⟨_, rfl, trivial⟩

theorem openingEscapedFrom_ends (pair : CharPair) (depth lines finish : Nat) (cur : Cursor)
    (cond : Condition) : ∃ r, w.openingEscapedFrom pair depth lines finish cur cond = some r :=
  loop_ends (fun s => s.2.1) (escapedTurn_step pair) (Nat.lt_succ_self _)

theorem forwardWith_ends (start : Nat) (bound : Bound) (cond : Condition) (cur : Cursor) :
    ∃ r, w.forwardWith start bound cond cur = some r := by
  rw [forwardWith]
  cases (w.after cur.asked).limit bound with
  | error e => exact ⟨_, rfl⟩
  | ok limit =>
    obtain ⟨o, ho, -⟩ :=
      w.scan_ends .forward limit
        (cur.moveTo (toPosition (min start (bound.above w.document.length)))) cond
    simp only [ho, Option.map_some]
    exact ⟨_, rfl⟩

theorem backwardWith_ends (start : Nat) (bound : Bound) (cond : Condition) (cur : Cursor) :
    ∃ r, w.backwardWith start bound cond cur = some r := by
  rw [backwardWith]
  split
  · exact ⟨_, rfl⟩
  · obtain ⟨o, ho, -⟩ :=
      w.scan_ends .backward bound.below (cur.moveTo (min start lastPosition : Nat)) cond
    rw [ho]
    exact ⟨_, rfl⟩

theorem closingPeerWith_ends (start : Nat) (pair : CharPair) (cond : Condition) (cur : Cursor) :
    ∃ r, w.closingPeerWith start pair cond cur = some r := by
  rw [closingPeerWith]
  split
  · cases (w.after cur.asked).limit .unbound with
    | error e => exact ⟨_, rfl⟩
    | ok limit =>
      obtain ⟨r, hr⟩ :=
        w.peer_ends .forward pair limit 1
          (cur.moveTo (toPosition (min (start + 1) w.document.length))) cond
      simp only [hr, Option.map_some]
      exact ⟨_, rfl⟩
  · exact ⟨_, rfl⟩

theorem openingPeerEscaped_ends (start : Nat) (pair : CharPair) (escape : Char) (cur : Cursor) :
    ∃ r, w.openingPeerEscaped start pair escape cur = some r := by
  rw [openingPeerEscaped]
  cases w.document.lineOfOffset (min start w.document.length) with
  | error e => cases e <;> exact ⟨_, rfl⟩
  | ok line =>
    obtain ⟨r, hr⟩ := w.openingEscapedFrom_ends pair 1 (line + 1) (min start w.document.length) cur
      (.escaping pair.chars escape)
    simp only [hr, Option.map_some]
    exact ⟨_, rfl⟩

end

end World

end PartitionScan.Scan
