import PartitionScan.Scan.Peer

/-!
# Scans in a direction

A scan does the same at each position whichever way it goes: it reads the character, asks the
condition, and stops or moves on. What follows from that alone is shown once for both directions, by
induction on how a scan goes. The same holds of the search for a peer, which goes from one stop to
the next.
-/
namespace PartitionScan.Scan

inductive Direction where
  | forward
  | backward
  deriving DecidableEq, Repr

namespace Direction

def left : Direction → Int → Int → Nat
  | .forward, limit, position => (limit - position).toNat
  | .backward, limit, position => (position - limit).toNat

def step : Direction → Int → Int
  | .forward, position => position + 1
  | .backward, position => position - 1

def next : Direction → Int → Condition → Int
  | .forward, position, cond => cond.nextForward position
  | .backward, position, cond => cond.nextBackward position

def deeper : Direction → CharPair → Char
  | .forward, pair => pair.opening
  | .backward, pair => pair.closing

def scan : Direction → Context → Int → Cursor → Condition → Outcome
  | .forward => Scan.forward
  | .backward => Scan.backward

def peer : Direction → Context → CharPair → Int → Nat → Cursor → Condition → Option Nat × Cursor
  | .forward => closingFrom
  | .backward => openingFrom

theorem left_step_lt (d : Direction) {limit position : Int} (h : 0 < d.left limit position) :
    d.left limit (d.step position) < d.left limit position := by
  cases d <;> simp only [left, step] at h ⊢ <;> omega

/-- Whatever a condition remembers, a look at the next position leaves fewer of them. -/
theorem left_next_lt (d : Direction) (cond : Condition) {limit position : Int}
    (h : 0 < d.left limit position) :
    d.left limit (d.next position cond) < d.left limit position := by
  have hforward := cond.lt_nextForward position
  have hbackward := cond.nextBackward_lt position
  cases d <;> simp only [left, next] at h ⊢ <;> omega

theorem left_forward_pos {limit position : Int} :
    0 < Direction.forward.left limit position ↔ position < limit := by
  rw [left]
  omega

theorem left_backward_pos {limit position : Int} :
    0 < Direction.backward.left limit position ↔ limit < position := by
  rw [left]
  omega

theorem scan_eq (d : Direction) (ctx : Context) (limit : Int) (cur : Cursor) (cond : Condition) :
    d.scan ctx limit cur cond =
      if 0 < d.left limit cur.position then
        match ctx.charAt cur.position with
        | .error _ => ⟨false, cur, cond⟩
        | .ok c =>
          let v := cond.stop ctx cur.position c
          let cur' := cur.read c v.asked
          if v.stops then ⟨true, cur', v.condition⟩
          else d.scan ctx limit (cur'.moveTo (d.next cur.position v.condition)) v.condition
      else ⟨false, cur.moveTo limit, cond⟩ := by
  cases d with
  | forward =>
    rw [scan, Scan.forward]
    exact ite_congr (propext left_forward_pos.symm) (fun _ => rfl) (fun _ => rfl)
  | backward =>
    rw [scan, Scan.backward]
    exact ite_congr (propext left_backward_pos.symm) (fun _ => rfl) (fun _ => rfl)

theorem peer_eq (d : Direction) (ctx : Context) (pair : CharPair) (limit : Int) (depth : Nat)
    (cur : Cursor) (cond : Condition) :
    d.peer ctx pair limit depth cur cond =
      let o := d.scan ctx limit cur cond
      if o.stopped then
        let depth := pair.depthAfter (d.deeper pair) depth o.cursor.char
        if depth = 0 then (o.found?, o.cursor)
        else d.peer ctx pair limit depth (o.cursor.moveTo (d.step o.cursor.position)) o.condition
      else (none, o.cursor) := by
  cases d with
  | forward =>
    simp only [peer, scan, step, deeper]
    rw [closingFrom]
    rfl
  | backward =>
    simp only [peer, scan, step, deeper]
    rw [openingFrom]
    rfl

/-- How a scan goes from a cursor and a condition to its end, position by position. -/
inductive Run (d : Direction) (ctx : Context) (limit : Int) : Cursor → Condition → Outcome → Prop
  | unreadable {cur : Cursor} {cond : Condition} {e : Fault}
      (hleft : 0 < d.left limit cur.position) (hread : ctx.charAt cur.position = .error e) :
      Run d ctx limit cur cond ⟨false, cur, cond⟩
  | stopped {cur : Cursor} {cond : Condition} {c : Char} {v : Verdict}
      (hleft : 0 < d.left limit cur.position) (hread : ctx.charAt cur.position = .ok c)
      (hlook : cond.stop ctx cur.position c = v) (hstops : v.stops = true) :
      Run d ctx limit cur cond ⟨true, cur.read c v.asked, v.condition⟩
  | passed {cur : Cursor} {cond : Condition} {c : Char} {v : Verdict} {out : Outcome}
      (hleft : 0 < d.left limit cur.position) (hread : ctx.charAt cur.position = .ok c)
      (hlook : cond.stop ctx cur.position c = v) (hstops : v.stops = false)
      (hrest : Run d ctx limit ((cur.read c v.asked).moveTo (d.next cur.position v.condition))
        v.condition out) :
      Run d ctx limit cur cond out
  | exhausted {cur : Cursor} {cond : Condition} (hleft : ¬ 0 < d.left limit cur.position) :
      Run d ctx limit cur cond ⟨false, cur.moveTo limit, cond⟩

theorem scan_run (d : Direction) (ctx : Context) (limit : Int) (cur : Cursor) (cond : Condition) :
    d.Run ctx limit cur cond (d.scan ctx limit cur cond) := by
  rw [d.scan_eq]
  by_cases hleft : 0 < d.left limit cur.position
  · rw [if_pos hleft]
    cases hread : ctx.charAt cur.position with
    | error e => exact .unreadable hleft hread
    | ok c =>
      cases hstops : (cond.stop ctx cur.position c).stops with
      | true => simpa only [hstops] using .stopped hleft hread rfl hstops
      | false =>
        simpa only [hstops] using .passed hleft hread rfl hstops (scan_run d ctx limit _ _)
  · rw [if_neg hleft]
    exact .exhausted hleft
-- Whatever partition the condition remembers, the next look leaves fewer positions.
termination_by d.left limit cur.position
decreasing_by exact d.left_next_lt _ hleft

theorem run_forward (ctx : Context) (limit : Int) (cur : Cursor) (cond : Condition) :
    Direction.forward.Run ctx limit cur cond (Scan.forward ctx limit cur cond) :=
  Direction.forward.scan_run ctx limit cur cond

theorem run_backward (ctx : Context) (limit : Int) (cur : Cursor) (cond : Condition) :
    Direction.backward.Run ctx limit cur cond (Scan.backward ctx limit cur cond) :=
  Direction.backward.scan_run ctx limit cur cond

section

variable {d : Direction} {ctx : Context} {limit : Int} {cur : Cursor} {cond : Condition}
  {out : Outcome}

/-- What every look at a character keeps of a condition, a scan keeps. -/
theorem Run.keeps (h : d.Run ctx limit cur cond out) {inv : Condition → Prop}
    (hstep : ∀ position c cond, inv cond → ctx.charAt position = .ok c →
      inv (cond.stop ctx position c).condition)
    (hinv : inv cond) : inv out.condition := by
  induction h with
  | unreadable => exact hinv
  | stopped _ hread hlook => exact hlook ▸ hstep _ _ _ hinv hread
  | passed _ hread hlook _ _ ih => exact ih (hlook ▸ hstep _ _ _ hinv hread)
  | exhausted => exact hinv

/-- A scan that stopped has just read the character where it stopped. -/
theorem Run.read (h : d.Run ctx limit cur cond out) (hstopped : out.stopped = true) :
    ctx.charAt out.cursor.position = .ok out.cursor.char := by
  induction h with
  | unreadable => cases hstopped
  | stopped _ hread => exact hread
  | passed _ _ _ _ _ ih => exact ih hstopped
  | exhausted => cases hstopped

/-- A scan ends with positions left, and not before where it began, or at its limit. -/
theorem Run.ends (h : d.Run ctx limit cur cond out) :
    0 < d.left limit out.cursor.position ∧
        d.left limit out.cursor.position ≤ d.left limit cur.position ∨
      out.stopped = false ∧ out.cursor.position = limit := by
  induction h with
  | unreadable hleft => exact .inl ⟨hleft, Nat.le_refl _⟩
  | stopped hleft => exact .inl ⟨hleft, Nat.le_refl _⟩
  | @passed _ _ _ v _ hleft _ _ _ _ ih =>
    have hnext := Nat.le_of_lt (d.left_next_lt v.condition hleft)
    exact ih.imp_left fun ⟨hpos, hle⟩ => ⟨hpos, Nat.le_trans hle hnext⟩
  | exhausted => exact .inr ⟨rfl, rfl⟩

theorem Run.left_stopped (h : d.Run ctx limit cur cond out) (hstopped : out.stopped = true) :
    0 < d.left limit out.cursor.position ∧
      d.left limit out.cursor.position ≤ d.left limit cur.position :=
  h.ends.resolve_right fun hlimit => nomatch hstopped.symm.trans hlimit.1

end

/-- How a search for a peer goes, stop by stop, down to depth 0 or until there is no stop. -/
inductive PeerRun (d : Direction) (ctx : Context) (pair : CharPair) (limit : Int) :
    Nat → Cursor → Condition → Option Nat × Cursor → Prop
  | found {depth : Nat} {cur : Cursor} {cond : Condition} {out : Outcome}
      (hscan : d.Run ctx limit cur cond out) (hstopped : out.stopped = true)
      (hzero : pair.depthAfter (d.deeper pair) depth out.cursor.char = 0) :
      PeerRun d ctx pair limit depth cur cond (out.found?, out.cursor)
  | deeper {depth : Nat} {cur : Cursor} {cond : Condition} {out : Outcome} {r : Option Nat × Cursor}
      (hscan : d.Run ctx limit cur cond out) (hstopped : out.stopped = true)
      (hdeep : pair.depthAfter (d.deeper pair) depth out.cursor.char ≠ 0)
      (hrest : PeerRun d ctx pair limit (pair.depthAfter (d.deeper pair) depth out.cursor.char)
        (out.cursor.moveTo (d.step out.cursor.position)) out.condition r) :
      PeerRun d ctx pair limit depth cur cond r
  | nothing {depth : Nat} {cur : Cursor} {cond : Condition} {out : Outcome}
      (hscan : d.Run ctx limit cur cond out) (hstopped : out.stopped = false) :
      PeerRun d ctx pair limit depth cur cond (none, out.cursor)

theorem peer_run (d : Direction) (ctx : Context) (pair : CharPair) (limit : Int) (depth : Nat)
    (cur : Cursor) (cond : Condition) :
    d.PeerRun ctx pair limit depth cur cond (d.peer ctx pair limit depth cur cond) := by
  rw [d.peer_eq]
  have hscan := d.scan_run ctx limit cur cond
  by_cases hstopped : (d.scan ctx limit cur cond).stopped = true
  · simp only [if_pos hstopped]
    obtain ⟨hleft, hle⟩ := hscan.left_stopped hstopped
    have hnext := Nat.lt_of_lt_of_le (d.left_step_lt hleft) hle
    split
    next hzero => exact .found hscan hstopped hzero
    next hdeep => exact .deeper hscan hstopped hdeep (peer_run d ctx pair limit _ _ _)
  · simp only [if_neg hstopped]
    exact .nothing hscan (Bool.eq_false_iff.mpr hstopped)
termination_by d.left limit cur.position

end Direction

end PartitionScan.Scan
