import PartitionScan.Proofs.Directions
import PartitionScan.Proofs.Scanning

/-!
# Scans with checked arithmetic

Offsets and positions have 64 bits, and arithmetic that leaves them fails, as does a scan whose
bound lies beyond the stated end. Here the scans are taken once more with every such operation
checked, and with no more turns than there are offsets. They are the plain scans in every document
as long as stated lengths and the ends of partitions are positions and nothing is read at the last
one: a forward scan does not look at its limit or behind it, a backward scan looks at nothing before
the text, and a condition remembers only what has been read.
-/
namespace PartitionScan.Scan

/-- The result of arithmetic on offsets. -/
def offset? (n : Int) : Option Nat :=
  if 0 ≤ n ∧ n < offsetLimit then some n.toNat else none

def position? (n : Int) : Option Int :=
  if -lastPosition - 1 ≤ n ∧ n ≤ lastPosition then some n else none

theorem offset?_natCast {n : Nat} (h : n ≤ lastPosition + 1) : offset? n = some n := by
  have hlast : lastPosition + 1 < offsetLimit := by decide
  rw [offset?, if_pos (by omega), Int.toNat_natCast]

theorem offset?_succ {n : Nat} (h : n ≤ lastPosition) : offset? (n + 1) = some (n + 1) :=
  offset?_natCast (Nat.succ_le_succ h)

theorem position?_eq {n : Int} (h : -1 ≤ n) (h' : n ≤ lastPosition) : position? n = some n :=
  if_pos (by omega)

theorem toOffset_of_nonneg {position : Int} (h : 0 ≤ position) (h' : position ≤ lastPosition) :
    (toOffset position : Int) = position := by
  have hlast : lastPosition < offsetLimit := by decide
  obtain ⟨n, rfl⟩ := Int.eq_ofNat_of_zero_le h
  rw [toOffset_natCast (by omega)]

/-- What can be read lies before the last position, and the stated length and the ends of partitions
are positions. -/
structure Context.InWords (ctx : Context) : Prop where
  reads : ∀ {o c}, ctx.document.charAt o = .ok c → o < lastPosition
  stated : ctx.document.length ≤ lastPosition
  empty : ctx.document.isEmpty = true → ctx.document.length = 0
  partitions : ∀ {offset p}, ctx.classifier.partitionAt ctx.document offset = .ok p →
    p.finish ≤ lastPosition

/-- What a condition remembers are positions behind which there is another one. -/
def Condition.InWords : Condition → Prop
  | .unescaped _ _ last => ∀ e ∈ last, 0 ≤ e ∧ e < lastPosition
  | .gated inner seen => inner.InWords ∧ ∀ s ∈ seen, s.start ≤ s.finish ∧ s.finish ≤ lastPosition
  | _ => True

namespace Checked

def protects (last : Option Int) (position : Int) : Option Bool :=
  match last with
  | none => some false
  | some e => (position? (e + 1)).map fun next => decide (next = position)

def stop (ctx : Context) (position : Int) (char : Char) : Condition → Option Verdict
  | .unescaped set escape last => do
    if ← protects last position then
      return { stops := false, condition := .unescaped set escape last }
    else if char = escape then
      return { stops := false, condition := .unescaped set escape (some position) }
    else if set.contains char then
      return { stops := ctx.accepts (toOffset position)
               condition := .unescaped set escape last
               asked := [toOffset position] }
    else return { stops := false, condition := .unescaped set escape last }
  | .gated inner seen =>
    let offset := toOffset position
    if seen.any fun s => s.accepted && s.start ≤ offset && offset < s.finish then do
      let v ← stop ctx position char inner
      return { v with condition := .gated v.condition seen }
    else do
      let p := ctx.partition offset
      let accepted := ctx.filter.accepts p.kind
      let finish ← offset? (p.offset + p.length)
      let now := some { start := p.offset, finish, accepted }
      if accepted then
        let v ← stop ctx position char inner
        return { v with condition := .gated v.condition now, asked := v.asked ++ [offset] }
      else return { stops := false, condition := .gated inner now, asked := [offset] }
  | cond => some (cond.stop ctx position char)

def nextForward (position : Int) : Condition → Option Int
  | .gated inner (some seen) =>
    if seen.accepted then nextForward position inner
    else if position < toPosition seen.finish then some (toPosition seen.finish)
    else position? (position + 1)
  | _ => position? (position + 1)

def nextBackward (position : Int) : Condition → Option Int
  | .gated inner (some seen) =>
    if seen.accepted then nextBackward position inner
    else if toPosition seen.start ≤ position then position? (toPosition seen.start - 1)
    else position? (position - 1)
  | _ => position? (position - 1)

/-- Scans forward from the cursor while positions are below the limit, in a number of turns. -/
def forward (ctx : Context) (limit : Int) : Nat → Cursor → Condition → Option Outcome
  | 0, _, _ => none
  | turns + 1, cur, cond =>
    if cur.position < limit then
      match ctx.charAt cur.position with
      | .error _ => some ⟨false, cur, cond⟩
      | .ok c => do
        let v ← stop ctx cur.position c cond
        let cur' := cur.read c v.asked
        if v.stops then return ⟨true, cur', v.condition⟩
        else
          let next ← nextForward cur.position v.condition
          forward ctx limit turns (cur'.moveTo next) v.condition
    else some ⟨false, cur.moveTo limit, cond⟩

def backward (ctx : Context) (limit : Int) : Nat → Cursor → Condition → Option Outcome
  | 0, _, _ => none
  | turns + 1, cur, cond =>
    if limit < cur.position then
      match ctx.charAt cur.position with
      | .error _ => some ⟨false, cur, cond⟩
      | .ok c => do
        let v ← stop ctx cur.position c cond
        let cur' := cur.read c v.asked
        if v.stops then return ⟨true, cur', v.condition⟩
        else
          let next ← nextBackward cur.position v.condition
          backward ctx limit turns (cur'.moveTo next) v.condition
    else some ⟨false, cur.moveTo limit, cond⟩

def scanForward (ctx : Context) (start : Nat) (bound : Bound) (cur : Cursor) (cond : Condition) :
    Option Outcome :=
  let n := bound.above ctx.document.length
  if n ≤ ctx.document.length then
    forward ctx (toPosition n) offsetLimit (cur.moveTo (toPosition (min start n))) cond
  else none

def scanBackward (ctx : Context) (start : Int) (bound : Bound) (cur : Cursor) (cond : Condition) :
    Option Outcome :=
  if ctx.document.isEmpty then some ⟨false, cur.moveTo bound.below, cond⟩
  else backward ctx bound.below offsetLimit (cur.moveTo start) cond

def stopsIn (ctx : Context) (finish : Nat) : Nat → Nat → Cursor → Condition → Option Stops
  | 0, _, _, _ => none
  | turns + 1, next, cur, cond =>
    if next < finish then do
      let o ← scanForward ctx next (.offset finish) cur cond
      match o.found? with
      | some found =>
        let next ← offset? (found + 1)
        let rest ← stopsIn ctx finish turns next o.cursor o.condition
        return { rest with offsets := found :: rest.offsets }
      | none => return ⟨[], o.cursor, o.condition⟩
    else some ⟨[], cur, cond⟩

section

variable {ctx : Context} {cond : Condition} {position : Int}

theorem protects_eq {last : Option Int} (h : ∀ e ∈ last, 0 ≤ e ∧ e < lastPosition)
    (position : Int) :
    protects last position = some (decide (last = some (position - 1))) := by
  cases last with
  | none => rfl
  | some e =>
    have he := h e rfl
    rw [protects, position?_eq (by omega) (by omega), Option.map_some]
    simp only [Option.some.injEq, decide_eq_decide]
    omega

/-- The partition at a position, also the placeholder for one, ends at a position. -/
theorem finish_partition_le (hctx : ctx.InWords) (h : 0 ≤ position) (h' : position ≤ lastPosition) :
    (ctx.partition (toOffset position)).finish ≤ lastPosition := by
  rw [Context.partition]
  cases hp : ctx.classifier.partitionAt ctx.document (toOffset position) with
  | ok p => exact hctx.partitions hp
  | error e =>
    have := toOffset_of_nonneg h h'
    simp only [Partition.missing, Partition.finish]
    omega

/-- A look at a character behind which there is another position. -/
theorem stop_eq (hctx : ctx.InWords) (h : 0 ≤ position) (h' : position < lastPosition) (c : Char)
    (hcond : cond.InWords) :
    stop ctx position c cond = some (cond.stop ctx position c) ∧
      (cond.stop ctx position c).condition.InWords := by
  induction cond with
  | unescaped set escape last =>
    simp only [stop, Condition.stop, protects_eq hcond, Option.bind_eq_bind, Option.bind_some,
      decide_eq_true_eq, Option.pure_def]
    split
    · exact ⟨rfl, hcond⟩
    · split
      · refine ⟨rfl, fun e he => ?_⟩
        obtain rfl := Option.some.inj he
        exact ⟨h, h'⟩
      · split
        · exact ⟨rfl, hcond⟩
        · exact ⟨rfl, hcond⟩
  | gated inner seen ih =>
    obtain ⟨hinner, hseen⟩ := hcond
    obtain ⟨hstop, hkept⟩ := ih hinner
    have hfinish := finish_partition_le hctx h (Int.le_of_lt h')
    have hoffset := offset?_natCast (Nat.le_succ_of_le hfinish)
    rw [Partition.finish, Int.natCast_add] at hoffset
    simp only [stop, Condition.stop, hstop, hoffset, Option.bind_eq_bind, Option.bind_some,
      Option.pure_def]
    split
    · exact ⟨rfl, hkept, hseen⟩
    · split
      · refine ⟨rfl, hkept, fun s hs => ?_⟩
        obtain rfl := Option.some.inj hs
        exact ⟨Nat.le_add_right _ _, hfinish⟩
      · refine ⟨rfl, hinner, fun s hs => ?_⟩
        obtain rfl := Option.some.inj hs
        exact ⟨Nat.le_add_right _ _, hfinish⟩
  | among set => exact ⟨rfl, trivial⟩
  | nonBlank lineBreakIsBlank => exact ⟨rfl, trivial⟩
  | nonWord => exact ⟨rfl, trivial⟩
  | satisfying p => exact ⟨rfl, trivial⟩

/-- Behind a position that is not the last there is another one to look at. -/
theorem nextForward_eq (h : 0 ≤ position) (h' : position < lastPosition) (cond : Condition) :
    nextForward position cond = some (cond.nextForward position) := by
  have hnext : position? (position + 1) = some (position + 1) := position?_eq (by omega) (by omega)
  induction cond with
  | gated inner seen ih =>
    cases seen with
    | none => exact hnext
    | some seen =>
      rw [nextForward, Condition.nextForward, ih, hnext]
      split
      · rfl
      · split <;> rfl
  | _ => exact hnext

/-- Before a position of the text there is another one, and so there is before a partition. -/
theorem nextBackward_eq (h : 0 ≤ position) (h' : position ≤ lastPosition) (hcond : cond.InWords) :
    nextBackward position cond = some (cond.nextBackward position) := by
  have hbefore : position? (position - 1) = some (position - 1) :=
    position?_eq (by omega) (by omega)
  induction cond with
  | gated inner seen ih =>
    cases seen with
    | none => exact hbefore
    | some seen =>
      obtain ⟨hstart, hfinish⟩ := hcond.2 seen rfl
      rw [nextBackward, Condition.nextBackward, hbefore, ih hcond.1,
        toPosition_of_le (Nat.le_trans hstart hfinish), position?_eq (by omega) (by omega)]
      split
      · rfl
      · split <;> rfl
  | _ => exact hbefore

/-- What was read lies in the text, so that it is not at the last position. -/
theorem lt_lastPosition_of_charAt (hctx : ctx.InWords) (h : 0 ≤ position)
    (h' : position ≤ lastPosition) {c : Char} (hc : ctx.charAt position = .ok c) :
    position < lastPosition := by
  have hread : toOffset position < lastPosition := hctx.reads hc
  have hoffset := toOffset_of_nonneg h h'
  omega

/-- A forward scan below a position does what the plain one does. -/
theorem forward_eq (hctx : ctx.InWords) {limit : Int} (hlimit : limit ≤ lastPosition) {turns : Nat}
    (cur : Cursor) (cond : Condition) (hcur : 0 ≤ cur.position) (hcond : cond.InWords)
    (hturns : limit - cur.position < turns) (hpos : 0 < turns) :
    forward ctx limit turns cur cond = some (Scan.forward ctx limit cur cond) ∧
      (Scan.forward ctx limit cur cond).condition.InWords := by
  induction turns generalizing cur cond with
  | zero => exact absurd hpos (Nat.lt_irrefl 0)
  | succ turns ih =>
    rw [forward, Scan.forward]
    by_cases hlt : cur.position < limit
    · rw [if_pos hlt, if_pos hlt]
      cases hc : ctx.charAt cur.position with
      | error e => exact ⟨rfl, hcond⟩
      | ok c =>
        obtain ⟨hstop, hkept⟩ := stop_eq hctx hcur (by omega) c hcond
        have hpast := (cond.stop ctx cur.position c).condition.lt_nextForward cur.position
        simp only [hstop, nextForward_eq hcur (by omega), Option.bind_eq_bind, Option.bind_some,
          Option.pure_def]
        split
        · exact ⟨rfl, hkept⟩
        · exact ih _ _ (by rw [Cursor.position_moveTo]; omega) hkept
            (by rw [Cursor.position_moveTo]; omega) (by omega)
    · rw [if_neg hlt, if_neg hlt]
      exact ⟨rfl, hcond⟩

/-- A backward scan does what the plain one does. -/
theorem backward_eq (hctx : ctx.InWords) {limit : Int} (hlimit : -1 ≤ limit) {turns : Nat}
    (cur : Cursor) (cond : Condition) (hcur : cur.position ≤ lastPosition) (hcond : cond.InWords)
    (hturns : cur.position - limit < turns) (hpos : 0 < turns) :
    backward ctx limit turns cur cond = some (Scan.backward ctx limit cur cond) ∧
      (Scan.backward ctx limit cur cond).condition.InWords := by
  induction turns generalizing cur cond with
  | zero => exact absurd hpos (Nat.lt_irrefl 0)
  | succ turns ih =>
    rw [backward, Scan.backward]
    by_cases hlt : limit < cur.position
    · rw [if_pos hlt, if_pos hlt]
      cases hc : ctx.charAt cur.position with
      | error e => exact ⟨rfl, hcond⟩
      | ok c =>
        have hread := lt_lastPosition_of_charAt hctx (by omega) hcur hc
        obtain ⟨hstop, hkept⟩ := stop_eq hctx (by omega) hread c hcond
        have hbefore := (cond.stop ctx cur.position c).condition.nextBackward_lt cur.position
        simp only [hstop, nextBackward_eq (by omega) hcur hkept, Option.bind_eq_bind,
          Option.bind_some, Option.pure_def]
        split
        · exact ⟨rfl, hkept⟩
        · exact ih _ _ (by rw [Cursor.position_moveTo]; omega) hkept
            (by rw [Cursor.position_moveTo]; omega) (by omega)
    · rw [if_neg hlt, if_neg hlt]
      exact ⟨rfl, hcond⟩

theorem scanForward_eq (hctx : ctx.InWords) (bound : Bound) (limit : Nat)
    (hbound : bound.above ctx.document.length = limit) (hlimit : limit ≤ ctx.document.length)
    (start : Nat) (cur : Cursor) (hcond : cond.InWords) :
    scanForward ctx start bound cur cond =
        some (Scan.forward ctx limit (cur.moveTo (min start limit : Nat)) cond) ∧
      (Scan.forward ctx limit (cur.moveTo (min start limit : Nat)) cond).condition.InWords := by
  have hlast := Nat.le_trans hlimit hctx.stated
  rw [scanForward, hbound, if_pos hlimit, toPosition_of_le hlast,
    toPosition_of_le (Nat.le_trans (Nat.min_le_right start limit) hlast)]
  have hturns : lastPosition + 1 < offsetLimit := by decide
  exact forward_eq hctx (by omega) _ cond (by rw [Cursor.position_moveTo]; omega) hcond
    (by rw [Cursor.position_moveTo]; omega) (by omega)

theorem scanForward_of_le (hctx : ctx.InWords) (bound : Bound) (limit : Nat)
    (hbound : bound.above ctx.document.length = limit) (hlimit : limit ≤ ctx.document.length)
    {start : Nat} (hstart : start ≤ limit) (cur : Cursor) (hcond : cond.InWords) :
    scanForward ctx start bound cur cond = some (Scan.forward ctx limit (cur.moveTo start) cond) ∧
      (Scan.forward ctx limit (cur.moveTo start) cond).condition.InWords := by
  have heq := scanForward_eq hctx bound limit hbound hlimit start cur hcond
  rwa [Nat.min_eq_left hstart] at heq

theorem scanBackward_eq (hctx : ctx.InWords) (start : Int) (hstart : start ≤ lastPosition)
    (cur : Cursor) (hcond : cond.InWords) :
    scanBackward ctx start .unbound cur cond = some (backwardFrom ctx start .unbound cur cond) ∧
      (backwardFrom ctx start .unbound cur cond).condition.InWords := by
  rw [scanBackward, backwardFrom]
  split
  · exact ⟨rfl, hcond⟩
  · have hturns : lastPosition + 1 < offsetLimit := by decide
    exact backward_eq hctx (Int.le_refl _) _ cond hstart hcond
      (by rw [Cursor.position_moveTo]; omega) (by omega)

end

end Checked

section

variable {ctx : Context} {limit : Int} {cur : Cursor} {cond : Condition}

/-- Wherever a forward scan ends, it is not before where it began and not behind its limit. -/
theorem forward_within (ctx : Context) (limit : Int) (cur : Cursor) (cond : Condition) :
    min cur.position limit ≤ (forward ctx limit cur cond).cursor.position ∧
      (forward ctx limit cur cond).cursor.position ≤ limit := by
  rcases (Direction.run_forward ctx limit cur cond).ends with ⟨hpos, hle⟩ | ⟨-, hlimit⟩
  · simp only [Direction.left] at hpos hle
    omega
  · omega

theorem backward_within (ctx : Context) (limit : Int) (cur : Cursor) (cond : Condition) :
    limit ≤ (backward ctx limit cur cond).cursor.position ∧
      (backward ctx limit cur cond).cursor.position ≤ max cur.position limit := by
  rcases (Direction.run_backward ctx limit cur cond).ends with ⟨hpos, hle⟩ | ⟨-, hlimit⟩
  · simp only [Direction.left] at hpos hle
    omega
  · omega

theorem Outcome.found?_of_stopped {o : Outcome} (hstopped : o.stopped)
    (hread : ctx.charAt o.cursor.position = .ok o.cursor.char) (h : 0 ≤ o.cursor.position)
    (h' : o.cursor.position ≤ lastPosition) :
    ∃ found : Nat, o.found? = some found ∧ toOffset o.cursor.position = found ∧
      o.cursor.position = found ∧ ctx.document.charAt found = .ok o.cursor.char :=
  ⟨toOffset o.cursor.position, if_pos hstopped, rfl, (toOffset_of_nonneg h h').symm, hread⟩

/-- Where a forward scan stopped is an offset that can be read again. -/
theorem forward_found (hlimit : limit ≤ lastPosition) (hcur : 0 ≤ cur.position)
    (hstopped : (forward ctx limit cur cond).stopped) :
    ∃ found : Nat, (forward ctx limit cur cond).found? = some found ∧
      toOffset (forward ctx limit cur cond).cursor.position = found ∧
      (forward ctx limit cur cond).cursor.position = found ∧
      ctx.document.charAt found = .ok (forward ctx limit cur cond).cursor.char ∧
      cur.position ≤ found ∧ found < limit := by
  obtain ⟨hle, hlt⟩ := forward_stopped ctx limit cur cond hstopped
  obtain ⟨found, hfound, hoffset, hposition, hchar⟩ := Outcome.found?_of_stopped hstopped
    ((Direction.run_forward ctx limit cur cond).read hstopped) (by omega) (by omega)
  exact ⟨found, hfound, hoffset, hposition, hchar, by omega, by omega⟩

theorem backward_found (hlimit : -1 ≤ limit) (hcur : cur.position ≤ lastPosition)
    (hstopped : (backward ctx limit cur cond).stopped) :
    ∃ found : Nat, (backward ctx limit cur cond).found? = some found ∧
      toOffset (backward ctx limit cur cond).cursor.position = found ∧
      (backward ctx limit cur cond).cursor.position = found ∧
      ctx.document.charAt found = .ok (backward ctx limit cur cond).cursor.char ∧
      found ≤ cur.position := by
  obtain ⟨hle, hlt⟩ := backward_stopped ctx limit cur cond hstopped
  obtain ⟨found, hfound, hoffset, hposition, hchar⟩ := Outcome.found?_of_stopped hstopped
    ((Direction.run_backward ctx limit cur cond).read hstopped) (by omega) (by omega)
  exact ⟨found, hfound, hoffset, hposition, hchar, by omega⟩

end

namespace Checked

variable {ctx : Context}

/-- After a stop, the stops behind it are looked for. -/
theorem stopsIn_of_stopped (hctx : ctx.InWords) {limit : Nat} (hlimit : limit ≤ ctx.document.length)
    {next : Nat} (hlt : next < limit) (cur : Cursor) {cond : Condition} (hcond : cond.InWords)
    (hstopped : (Scan.forward ctx limit (cur.moveTo next) cond).stopped) (turns : Nat) :
    let o := Scan.forward ctx limit (cur.moveTo next) cond
    ∃ found : Nat, toOffset o.cursor.position = found ∧ o.cursor.position = found ∧ next ≤ found ∧
      found < limit ∧ o.condition.InWords ∧
      stopsIn ctx limit (turns + 1) next cur cond =
        (stopsIn ctx limit turns (found + 1) o.cursor o.condition).map
          fun rest => { rest with offsets := found :: rest.offsets } := by
  intro o
  have hlast := Nat.le_trans hlimit hctx.stated
  obtain ⟨hscan, hkept⟩ := scanForward_of_le hctx (.offset limit) limit rfl hlimit
    (Nat.le_of_lt hlt) cur hcond
  obtain ⟨found, hfound, hoffset, hposition, -, hge, hbelow⟩ := forward_found (by omega)
    (by rw [Cursor.position_moveTo]; omega) hstopped
  rw [Cursor.position_moveTo] at hge
  have hsucc : offset? (found + 1) = some (found + 1) := offset?_succ (by omega)
  refine ⟨found, hoffset, hposition, by omega, by omega, hkept, ?_⟩
  rw [stopsIn, if_pos hlt, hscan]
  simp only [Option.bind_eq_bind, Option.bind_some, hfound, hsucc, Option.pure_def]
  exact Option.map_eq_bind.symm

/-- The stops of a range, of which there are no more than offsets in it. -/
theorem stopsUpTo_eq (hctx : ctx.InWords) {limit : Nat} (hlimit : limit ≤ ctx.document.length)
    (cur : Cursor) (cond : Condition) :
    ∀ (cur₀ : Cursor) (next turns : Nat), cur = cur₀.moveTo next → next < limit → cond.InWords →
      limit - next < turns →
      stopsIn ctx limit turns next cur₀ cond = some (stopsUpTo ctx limit cur cond) ∧
        (stopsUpTo ctx limit cur cond).condition.InWords ∧
        next + (stopsUpTo ctx limit cur cond).offsets.length ≤ limit := by
  fun_induction stopsUpTo ctx limit cur cond with
  | case1 cur cond o hstopped next' hnext rest ih =>
    rintro cur₀ next (_ | turns) rfl hlt hcond hturns
    · omega
    · obtain ⟨found, hoffset, hposition, hge, hbelow, hkept, hstops⟩ :=
        stopsIn_of_stopped hctx hlimit hlt cur₀ hcond hstopped turns
      have hmoved : next' = (found + 1 : Nat) := congrArg (· + 1) hposition
      obtain ⟨hrest, hkept', hcount⟩ := ih o.cursor (found + 1) turns (by rw [hmoved]) (by omega)
        hkept (by omega)
      refine ⟨?_, hkept', ?_⟩
      · rw [hstops, hrest, hoffset]
        rfl
      · change next + (rest.offsets.length + 1) ≤ limit
        have : found + 1 + rest.offsets.length ≤ limit := hcount
        omega
  | case2 cur cond o hstopped next' hnext =>
    rintro cur₀ next (_ | _ | turns) rfl hlt hcond hturns
    · omega
    · omega
    · obtain ⟨found, hoffset, hposition, hge, hbelow, hkept, hstops⟩ :=
        stopsIn_of_stopped hctx hlimit hlt cur₀ hcond hstopped (turns + 1)
      have hmoved : next' = (found + 1 : Nat) := congrArg (· + 1) hposition
      refine ⟨?_, hkept, Nat.le_trans (Nat.succ_le_succ hge) hbelow⟩
      rw [hstops, stopsIn, if_neg (by omega), hoffset]
      rfl
  | case3 cur cond o hstopped =>
    rintro cur₀ next (_ | turns) rfl hlt hcond hturns
    · omega
    · obtain ⟨hscan, hkept⟩ := scanForward_of_le hctx (.offset limit) limit rfl hlimit
        (Nat.le_of_lt hlt) cur₀ hcond
      have hnone : (Scan.forward ctx limit (cur₀.moveTo next) cond).found? = none :=
        Outcome.found?_eq_none (Bool.eq_false_iff.mpr hstopped)
      refine ⟨?_, hkept, Nat.le_of_lt hlt⟩
      rw [stopsIn, if_pos hlt, hscan]
      simp only [Option.bind_eq_bind, Option.bind_some, hnone, Option.pure_def]
      rfl

/-- The stops of a range up to the stated end. -/
theorem stopsIn_eq (hctx : ctx.InWords) {finish : Nat} (hfinish : finish ≤ ctx.document.length)
    (next : Nat) (cur : Cursor) {cond : Condition} (hcond : cond.InWords) :
    ∃ stops, stopsIn ctx finish offsetLimit next cur cond = some stops ∧
      Scan.stopsIn ctx next finish cur cond = .ok stops ∧ stops.condition.InWords ∧
      stops.offsets.length ≤ finish - next := by
  have hlast := Nat.le_trans hfinish hctx.stated
  have hlimit : lastPosition < offsetLimit := by decide
  by_cases hlt : next < finish
  · obtain ⟨hstops, hkept, hcount⟩ := stopsUpTo_eq hctx hfinish _ cond cur next offsetLimit rfl hlt
      hcond (by omega)
    refine ⟨_, hstops, ?_, hkept, by omega⟩
    rw [Scan.stopsIn, if_pos hlt, ctx.limit_offset finish hfinish, toPosition_of_le hlast,
      toPosition_of_le (by omega)]
    rfl
  · refine ⟨⟨[], cur, cond⟩, ?_, ?_, hcond, Nat.zero_le _⟩
    · rw [← Nat.sub_add_cancel (Nat.one_le_of_lt hlimit), stopsIn, if_neg hlt]
    · rw [Scan.stopsIn, if_neg hlt]

end Checked

end PartitionScan.Scan
