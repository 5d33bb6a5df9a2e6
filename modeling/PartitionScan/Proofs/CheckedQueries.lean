import PartitionScan.Proofs.CheckedScans
import PartitionScan.Proofs.Escapes
import PartitionScan.Proofs.History

/-!
# Queries with checked arithmetic

The queries about positions, with arithmetic that fails where it leaves the offsets or the
positions, and with loops that fail when they take more turns than there are offsets. None of them
fails: the depth changes by one at each stop, and there are never more stops than offsets between
where a search began and where it is.
-/
namespace PartitionScan.Scan

theorem Condition.inWords_gate_among (set : List Char) : (gate (.among set)).InWords :=
  ⟨trivial, fun _ h => nomatch h⟩

theorem Condition.inWords_escaping (set : List Char) (escape : Char) :
    (escaping set escape).InWords :=
  fun _ h => nomatch h

/-- A context that reads a buffer, whatever length is stated of it. -/
structure Context.Over (ctx : Context) (b : Buffer) : Prop where
  document : ctx.document = b.stating ctx.document.length
  made : b.Made
  positions : b.length ≤ lastPosition
  stated : ctx.document.length ≤ lastPosition
  partitions : ∀ {offset p}, ctx.classifier.partitionAt ctx.document offset = .ok p →
    p.finish ≤ lastPosition

namespace Context.Over

variable {ctx : Context} {b : Buffer} (h : ctx.Over b)
include h

theorem charAt (o : Nat) : ctx.document.charAt o = b.charAt o :=
  congrArg (·.charAt o) h.document

theorem lineOffset (line : Nat) : ctx.document.lineOffset line = b.lineOffset line :=
  congrArg (·.lineOffset line) h.document

theorem lineOfOffset (o : Nat) : ctx.document.lineOfOffset o = b.lineOfOffset o :=
  congrArg (·.lineOfOffset o) h.document

theorem inWords : ctx.InWords where
  reads {o c} hc := by
    rw [h.charAt, Buffer.charAt_ok_iff] at hc
    have hlt := (List.getElem?_eq_some_iff.mp hc).1
    have hpositions := h.positions
    rw [Buffer.length_text] at hlt
    omega
  stated := h.stated
  empty hempty := by
    rw [h.document] at hempty
    simpa [Buffer.stating] using hempty
  partitions := h.partitions

end Context.Over

namespace Checked

def depthAfter (pair : CharPair) (deeper : Char) (depth : Nat) (c : Char) : Option Nat :=
  if c = deeper ∧ ¬ pair.isSymmetric then offset? (depth + 1) else offset? (depth - 1)

def closingFrom (ctx : Context) (pair : CharPair) :
    Nat → Nat → Nat → Cursor → Condition → Option (Option Nat × Cursor)
  | 0, _, _, _, _ => none
  | turns + 1, depth, next, cur, cond => do
    let o ← scanForward ctx next .unbound cur cond
    match o.found? with
    | none => return (none, o.cursor)
    | some found =>
      match ctx.document.charAt found with
      | .error _ => return (none, o.cursor)
      | .ok c =>
        let depth ← depthAfter pair pair.opening depth c
        if depth = 0 then return (some found, o.cursor)
        else
          let next ← offset? (found + 1)
          closingFrom ctx pair turns depth next o.cursor o.condition

def openingFrom (ctx : Context) (pair : CharPair) :
    Nat → Nat → Int → Cursor → Condition → Option (Option Nat × Cursor)
  | 0, _, _, _, _ => none
  | turns + 1, depth, next, cur, cond => do
    let o ← scanBackward ctx next .unbound cur cond
    match o.found? with
    | none => return (none, o.cursor)
    | some found =>
      match ctx.document.charAt found with
      | .error _ => return (none, o.cursor)
      | .ok c =>
        let depth ← depthAfter pair pair.closing depth c
        if depth = 0 then return (some found, o.cursor)
        else
          let next ← position? (toPosition found - 1)
          openingFrom ctx pair turns depth next o.cursor o.condition

/-- A query whose arithmetic is checked. -/
abbrev Query (α : Type) := Context → Cursor → Option (α × Cursor)

/-- What is checked has a result, and it is that of the plain query. -/
def Agrees {α : Type} (checked : Option α) (plain : Except Fault α) : Prop :=
  ∃ r, checked = some r ∧ plain = .ok r

def closingPeerWith (start : Nat) (pair : CharPair) (cond : Condition) : Query (Option Nat) :=
  fun ctx cur =>
    if start < ctx.document.length then do
      let next ← offset? (start + 1)
      closingFrom ctx pair offsetLimit 1 next cur cond
    else some (none, cur)

def closingPeer (start : Nat) (pair : CharPair) : Query (Option Nat) :=
  closingPeerWith start pair (.gate (.among pair.chars))

def closingPeerEscaped (start : Nat) (pair : CharPair) (escape : Char) : Query (Option Nat) :=
  closingPeerWith start pair (.escaping pair.chars escape)

def openingPeer (start : Nat) (pair : CharPair) : Query (Option Nat) := fun ctx cur => do
  let next ← position? (toPosition (min start ctx.document.length) - 1)
  openingFrom ctx pair offsetLimit 1 next cur (.gate (.among pair.chars))

structure LineStops where
  offsets : List Nat
  above : Int
  cursor : Cursor
  condition : Condition

def nearestStops (ctx : Context) (bound : Int) :
    Nat → Int → Nat → Cursor → Condition → Option (Except Fault LineStops)
  | 0, _, _, _, _ => none
  | turns + 1, line, finish, cur, cond =>
    if 0 ≤ line then
      match ctx.document.lineOffset (toOffset line) with
      | .error e => some (.error e)
      | .ok start => do
        let stops ← stopsIn ctx finish offsetLimit start cur cond
        let kept := stops.offsets.filter fun n : Nat => bound < toPosition n
        let above ← position? (line - 1)
        if !kept.isEmpty || toPosition start ≤ bound then
          return .ok ⟨kept, above, stops.cursor, stops.condition⟩
        else nearestStops ctx bound turns above start stops.cursor stops.condition
    else some (.ok ⟨[], line, cur, cond⟩)

def unwind (ctx : Context) (pair : CharPair) :
    Nat → List Nat → Option (Except Fault (Option Nat × Nat))
  | depth, [] => some (.ok (none, depth))
  | depth, offset :: rest =>
    match ctx.document.charAt offset with
    | .error e => some (.error e)
    | .ok c => do
      let depth ← depthAfter pair pair.closing depth c
      if depth = 0 then return .ok (some offset, 0) else unwind ctx pair depth rest

def openingEscapedFrom (ctx : Context) (pair : CharPair) :
    Nat → Nat → Int → Nat → Cursor → Condition → Option (Except Fault (Option Nat × Cursor))
  | 0, _, _, _, _, _ => none
  | turns + 1, depth, line, finish, cur, cond => do
    match ← nearestStops ctx (-1) offsetLimit line finish cur cond with
    | .error e => return .error e
    | .ok r =>
      if r.offsets.isEmpty then return .ok (none, r.cursor)
      else
        match ← unwind ctx pair depth r.offsets.reverse with
        | .error e => return .error e
        | .ok (some peer, _) => return .ok (some peer, r.cursor)
        | .ok (none, depth) =>
          let below ← position? (r.above + 1)
          match ctx.document.lineOffset (toOffset below) with
          | .error e => return .error e
          | .ok start => openingEscapedFrom ctx pair turns depth r.above start r.cursor r.condition

def openingPeerEscaped (start : Nat) (pair : CharPair) (escape : Char) : Query (Option Nat) :=
  fun ctx cur =>
    let start := min start ctx.document.length
    match ctx.document.lineOfOffset start with
    | .error _ => some (none, cur)
    | .ok line => do
      match ← openingEscapedFrom ctx pair offsetLimit 1 (toPosition line) start cur
        (.escaping pair.chars escape) with
      | .error _ => return (none, cur)
      | .ok r => return r

/-- Where a scan ended: where it stopped, or where its cursor was left. -/
def reached (o : Outcome) : Int :=
  match o.found? with
  | some found => toPosition found
  | none => o.cursor.position

def findRegion (position : Nat) (cond : Condition) (allowClosing : Bool) : Query (Option Region) :=
  fun ctx cur => do
    let position := min position ctx.document.length
    let ahead ← scanForward ctx position .unbound cur cond
    let finish := reached ahead
    let origin := toPosition position
    if allowClosing || origin < finish then
      let before ← position? (origin - 1)
      let behind ← scanBackward ctx before .unbound ahead.cursor ahead.condition
      let start ← position? (reached behind + 1)
      if start < finish then
        let length ← position? (finish - start)
        return (some ⟨toOffset start, toOffset length⟩, behind.cursor)
      else return (none, behind.cursor)
    else return (none, ahead.cursor)

def blankRegion (position : Nat) (lineBreakIsBlank : Bool) : Query (Option Region) :=
  findRegion position (.nonBlank lineBreakIsBlank) false

def commonWord (position : Nat) : Query (Option Region) :=
  findRegion position .nonWord false

def tally : List Nat → Option Nat
  | [] => some 0
  | _ :: rest => do offset? ((← tally rest) + 1)

def count (start finish : Nat) (char : Char) : Query Nat := fun ctx cur => do
  let stops ← stopsIn ctx (min finish ctx.document.length) offsetLimit start cur
    (.gate (.among [char]))
  return (← tally stops.offsets, stops.cursor)

def forwardWith (start : Nat) (bound : Bound) (cond : Condition) :
    Query (Option Nat × Condition) := fun ctx cur => do
  let o ← scanForward ctx start bound cur cond
  return ((o.found?, o.condition), o.cursor)

def backwardWith (start : Nat) (bound : Bound) (cond : Condition) :
    Query (Option Nat × Condition) := fun ctx cur => do
  let o ← scanBackward ctx (min start lastPosition : Nat) bound cur cond
  return ((o.found?, o.condition), o.cursor)

section

variable {ctx : Context} {cond : Condition}

theorem offset?_pred {n : Nat} (h : 1 ≤ n) (h' : n ≤ lastPosition + 1) :
    offset? (n - 1) = some (n - 1) := by
  have hpred : ((n - 1 : Nat) : Int) = n - 1 := by omega
  rw [← hpred, offset?_natCast (by omega)]

theorem depthAfter_eq {depth : Nat} (h : 1 ≤ depth) (h' : depth ≤ lastPosition) (pair : CharPair)
    (deeper c : Char) : depthAfter pair deeper depth c = some (pair.depthAfter deeper depth c) := by
  rw [depthAfter, CharPair.depthAfter, offset?_succ h', offset?_pred h (by omega)]
  split <;> rfl

theorem depthAfter_le (pair : CharPair) (deeper : Char) (depth : Nat) (c : Char) :
    pair.depthAfter deeper depth c ≤ depth + 1 := by
  rw [CharPair.depthAfter]
  split <;> omega

/-- After a stop, the search goes on behind it, unless the depth is 0 there. -/
theorem closingFrom_of_stopped (hctx : ctx.InWords) (pair : CharPair) {depth next : Nat}
    (hnext : next ≤ ctx.document.length) (hpos : 1 ≤ depth) (hdepth : depth ≤ next) (cur : Cursor)
    (hcond : cond.InWords)
    (hstopped : (Scan.forward ctx ctx.document.length (cur.moveTo next) cond).stopped)
    (turns : Nat) :
    let o := Scan.forward ctx ctx.document.length (cur.moveTo next) cond
    let depth' := pair.depthAfter pair.opening depth o.cursor.char
    ∃ found : Nat, o.found? = some found ∧ o.cursor.position = found ∧ next ≤ found ∧
      found < ctx.document.length ∧ o.condition.InWords ∧
      closingFrom ctx pair (turns + 1) depth next cur cond =
        if depth' = 0 then some (some found, o.cursor)
        else closingFrom ctx pair turns depth' (found + 1) o.cursor o.condition := by
  intro o depth'
  have hlast := hctx.stated
  obtain ⟨hscan, hkept⟩ := scanForward_of_le hctx .unbound ctx.document.length rfl (Nat.le_refl _)
    hnext cur hcond
  obtain ⟨found, hfound, -, hposition, hchar, hge, hbelow⟩ := forward_found (by omega)
    (by rw [Cursor.position_moveTo]; omega) hstopped
  rw [Cursor.position_moveTo] at hge
  have hsucc : offset? (found + 1) = some (found + 1) := offset?_succ (by omega)
  refine ⟨found, hfound, hposition, by omega, by omega, hkept, ?_⟩
  rw [closingFrom, hscan]
  simp only [Option.bind_eq_bind, Option.bind_some, hfound, hchar, depthAfter_eq hpos (by omega),
    hsucc, Option.pure_def]
  rfl

/-- Going forward, the depth is never more than the offset that is looked at next. -/
theorem closingFrom_eq (hctx : ctx.InWords) (pair : CharPair) (depth : Nat) (cur : Cursor)
    (cond : Condition) :
    ∀ (cur₀ : Cursor) (next turns : Nat), cur = cur₀.moveTo next → next ≤ ctx.document.length →
      1 ≤ depth → depth ≤ next → cond.InWords → ctx.document.length - next < turns →
      closingFrom ctx pair turns depth next cur₀ cond =
        some (Scan.closingFrom ctx pair ctx.document.length depth cur cond) := by
  fun_induction Scan.closingFrom ctx pair ctx.document.length depth cur cond with
  | case1 depth cur cond o hstopped depth' hzero =>
    rintro cur₀ next (_ | turns) rfl hnext hpos hdepth hcond hturns
    · omega
    · obtain ⟨found, hfound, -, -, -, -, hstep⟩ :=
        closingFrom_of_stopped hctx pair hnext hpos hdepth cur₀ hcond hstopped turns
      rw [hstep, if_pos hzero]
      exact congrArg (fun f => some (f, o.cursor)) hfound.symm
  | case2 depth cur cond o hstopped depth' hdeep ih =>
    rintro cur₀ next (_ | turns) rfl hnext hpos hdepth hcond hturns
    · omega
    · obtain ⟨found, -, hposition, hge, hbelow, hkept, hstep⟩ :=
        closingFrom_of_stopped hctx pair hnext hpos hdepth cur₀ hcond hstopped turns
      have hmoved : o.cursor.position + 1 = (found + 1 : Nat) := congrArg (· + 1) hposition
      have hdepth' : depth' ≤ depth + 1 := depthAfter_le pair pair.opening depth o.cursor.char
      rw [hstep, if_neg hdeep]
      exact ih o.cursor (found + 1) turns (by rw [hmoved]) hbelow (by omega) (by omega) hkept
        (by omega)
  | case3 depth cur cond o hstopped =>
    rintro cur₀ next (_ | turns) rfl hnext hpos hdepth hcond hturns
    · omega
    · obtain ⟨hscan, -⟩ := scanForward_of_le hctx .unbound ctx.document.length rfl (Nat.le_refl _)
        hnext cur₀ hcond
      have hnone : (Scan.forward ctx ctx.document.length (cur₀.moveTo next) cond).found? = none :=
        Outcome.found?_eq_none (Bool.eq_false_iff.mpr hstopped)
      rw [closingFrom, hscan]
      simp only [Option.bind_eq_bind, Option.bind_some, hnone, Option.pure_def]
      rfl

theorem closingPeerWith_eq (hctx : ctx.InWords) (start : Nat) (pair : CharPair)
    (hcond : cond.InWords) (cur : Cursor) :
    Agrees (closingPeerWith start pair cond ctx cur)
      (Scan.closingPeerWith start pair cond ctx cur) := by
  have hlast := hctx.stated
  have hlimit : lastPosition < offsetLimit := by decide
  by_cases hstart : start < ctx.document.length
  · have hclosing := closingFrom_eq hctx pair 1 _ cond cur (start + 1) offsetLimit rfl hstart
      (Nat.le_refl 1) (Nat.succ_le_succ (Nat.zero_le start)) hcond (by omega)
    have hsucc : offset? (start + 1) = some (start + 1) := offset?_succ (by omega)
    refine ⟨Scan.closingFrom ctx pair ctx.document.length 1 (cur.moveTo (start + 1 : Nat)) cond,
      ?_, ?_⟩
    · rw [closingPeerWith, if_pos hstart, hsucc]
      exact hclosing
    · rw [Scan.closingPeerWith, if_pos hstart, ctx.limit_unbound, toPosition_of_le hlast,
        Nat.min_eq_left hstart, toPosition_of_le (by omega)]
      rfl
  · exact ⟨(none, cur), if_neg hstart, if_neg hstart⟩

/-- Before the stated end, what is empty makes no difference to a backward scan. -/
theorem backwardFrom_of_lt (hctx : ctx.InWords) {next : Int} (hnext : -1 ≤ next)
    (hlt : next < ctx.document.length) (cur : Cursor) (cond : Condition) :
    backwardFrom ctx next .unbound cur cond = Scan.backward ctx (-1) (cur.moveTo next) cond := by
  rw [backwardFrom]
  split
  · next hempty =>
    have hzero := hctx.empty hempty
    obtain rfl : next = -1 := by omega
    rw [Scan.backward, if_neg (by simp)]
    rfl
  · rfl

theorem scanBackward_of_lt (hctx : ctx.InWords) {next : Int} (hnext : -1 ≤ next)
    (hlt : next < ctx.document.length) (cur : Cursor) (hcond : cond.InWords) :
    scanBackward ctx next .unbound cur cond = some (Scan.backward ctx (-1) (cur.moveTo next) cond) ∧
      (Scan.backward ctx (-1) (cur.moveTo next) cond).condition.InWords := by
  have hlast := hctx.stated
  have heq := scanBackward_eq hctx next (by omega) cur hcond
  rwa [backwardFrom_of_lt hctx hnext hlt] at heq

theorem openingFrom_of_stopped (hctx : ctx.InWords) (pair : CharPair) {depth : Nat} {next : Int}
    (hnext : -1 ≤ next) (hpos : 1 ≤ depth) (hdepth : depth + next ≤ ctx.document.length)
    (cur : Cursor) (hcond : cond.InWords)
    (hstopped : (Scan.backward ctx (-1) (cur.moveTo next) cond).stopped) (turns : Nat) :
    let o := Scan.backward ctx (-1) (cur.moveTo next) cond
    let depth' := pair.depthAfter pair.closing depth o.cursor.char
    ∃ found : Nat, o.found? = some found ∧ o.cursor.position = found ∧ found ≤ next ∧
      o.condition.InWords ∧
      openingFrom ctx pair (turns + 1) depth next cur cond =
        if depth' = 0 then some (some found, o.cursor)
        else openingFrom ctx pair turns depth' (found - 1) o.cursor o.condition := by
  intro o depth'
  have hlast := hctx.stated
  obtain ⟨hscan, hkept⟩ := scanBackward_of_lt hctx hnext (by omega) cur hcond
  obtain ⟨found, hfound, -, hposition, hchar, hle⟩ := backward_found (Int.le_refl _)
    (by rw [Cursor.position_moveTo]; omega) hstopped
  rw [Cursor.position_moveTo] at hle
  have hbefore : position? ((found : Int) - 1) = some ((found : Int) - 1) :=
    position?_eq (by omega) (by omega)
  refine ⟨found, hfound, hposition, hle, hkept, ?_⟩
  rw [openingFrom, hscan]
  simp only [Option.bind_eq_bind, Option.bind_some, hfound, hchar, depthAfter_eq hpos (by omega),
    toPosition_of_le (n := found) (by omega), hbefore, Option.pure_def]
  rfl

/-- Going backward, the depth and the position that is looked at next never add up to more. -/
theorem openingFrom_eq (hctx : ctx.InWords) (pair : CharPair) (depth : Nat) (cur : Cursor)
    (cond : Condition) :
    ∀ (cur₀ : Cursor) (next : Int) (turns : Nat), cur = cur₀.moveTo next → -1 ≤ next → 1 ≤ depth →
      depth + next ≤ ctx.document.length → cond.InWords → next + 1 < turns →
      openingFrom ctx pair turns depth next cur₀ cond =
        some (Scan.openingFrom ctx pair (-1) depth cur cond) := by
  fun_induction Scan.openingFrom ctx pair (-1) depth cur cond with
  | case1 depth cur cond o hstopped depth' hzero =>
    rintro cur₀ next (_ | turns) rfl hnext hpos hdepth hcond hturns
    · omega
    · obtain ⟨found, hfound, -, -, -, hstep⟩ :=
        openingFrom_of_stopped hctx pair hnext hpos hdepth cur₀ hcond hstopped turns
      rw [hstep, if_pos hzero]
      exact congrArg (fun f => some (f, o.cursor)) hfound.symm
  | case2 depth cur cond o hstopped depth' hdeep ih =>
    rintro cur₀ next (_ | turns) rfl hnext hpos hdepth hcond hturns
    · omega
    · obtain ⟨found, -, hposition, hle, hkept, hstep⟩ :=
        openingFrom_of_stopped hctx pair hnext hpos hdepth cur₀ hcond hstopped turns
      have hmoved : o.cursor.position - 1 = (found : Int) - 1 := congrArg (· - 1) hposition
      have hdepth' : depth' ≤ depth + 1 := depthAfter_le pair pair.closing depth o.cursor.char
      rw [hstep, if_neg hdeep]
      exact ih o.cursor (found - 1) turns (by rw [hmoved]) (by omega) (by omega) (by omega) hkept
        (by omega)
  | case3 depth cur cond o hstopped =>
    rintro cur₀ next (_ | turns) rfl hnext hpos hdepth hcond hturns
    · omega
    · obtain ⟨hscan, -⟩ := scanBackward_of_lt hctx hnext (by omega) cur₀ hcond
      have hnone : (Scan.backward ctx (-1) (cur₀.moveTo next) cond).found? = none :=
        Outcome.found?_eq_none (Bool.eq_false_iff.mpr hstopped)
      rw [openingFrom, hscan]
      simp only [Option.bind_eq_bind, Option.bind_some, hnone, Option.pure_def]
      rfl

theorem openingPeer_eq (hctx : ctx.InWords) (start : Nat) (pair : CharPair) (cur : Cursor) :
    Agrees (openingPeer start pair ctx cur) (Scan.openingPeer start pair ctx cur) := by
  have hlast := hctx.stated
  have hlimit : lastPosition < offsetLimit := by decide
  refine ⟨_, ?_, rfl⟩
  have hmin : min start ctx.document.length ≤ ctx.document.length := Nat.min_le_right _ _
  rw [openingPeer, toPosition_of_le (Nat.le_trans hmin hlast), position?_eq (by omega) (by omega)]
  exact openingFrom_eq hctx pair 1 _ _ cur _ offsetLimit rfl (by omega) (Nat.le_refl 1) (by omega)
    (Condition.inWords_gate_among pair.chars) (by omega)

/-- Each stop that is walked makes the depth at most one more. -/
theorem unwind_eq (ctx : Context) (pair : CharPair) (offsets : List Nat) (depth : Nat)
    (hpos : 1 ≤ depth) (hdepth : depth + offsets.length ≤ lastPosition + 1) :
    unwind ctx pair depth offsets = some (Scan.unwind ctx pair depth offsets) ∧
      ∀ n, Scan.unwind ctx pair depth offsets = .ok (none, n) →
        1 ≤ n ∧ n ≤ depth + offsets.length := by
  induction offsets generalizing depth with
  | nil =>
    refine ⟨rfl, fun n hn => ?_⟩
    cases hn
    exact ⟨hpos, Nat.le_refl _⟩
  | cons o rest ih =>
    rw [List.length_cons] at hdepth ⊢
    rw [unwind, Scan.unwind]
    cases hc : ctx.document.charAt o with
    | error e => simp
    | ok c =>
      have hle := depthAfter_le pair pair.closing depth c
      simp only [depthAfter_eq hpos (by omega), Option.bind_eq_bind, Option.bind_some,
        Option.pure_def]
      by_cases hzero : pair.depthAfter pair.closing depth c = 0
      · simp [hzero]
      · obtain ⟨hunwind, hbounds⟩ := ih (pair.depthAfter pair.closing depth c) (by omega) (by omega)
        rw [if_neg hzero, if_neg hzero]
        refine ⟨hunwind, fun n hn => ?_⟩
        have := hbounds n hn
        omega

section

variable {b : Buffer} (hover : ctx.Over b)
include hover

/-- Only a read can fail while stops are walked. -/
theorem unwind_ne_boundBeyondEnd (pair : CharPair) (offsets : List Nat) (depth bound length : Nat) :
    Scan.unwind ctx pair depth offsets ≠ .error (.boundBeyondEnd bound length) := by
  induction offsets generalizing depth with
  | nil => simp [Scan.unwind]
  | cons o rest ih =>
    rw [Scan.unwind, hover.charAt]
    by_cases ho : o < b.text.length
    · simp only [Buffer.charAt_eq ho]
      split
      · simp
      · exact ih _
    · rw [Buffer.charAt_beyond (by rwa [Buffer.length_text, Nat.not_lt] at ho)]
      simp

theorem toOffset_line {line : Nat} (h : line < b.lines.length) :
    toOffset line = line ∧ line ≤ lastPosition := by
  have hlast : lastPosition < offsetLimit := by decide
  have hextent := hover.made.canonical.line_le_extent h
  have hlength := Buffer.extent_take_le_length b line
  have hpositions := hover.positions
  exact ⟨toOffset_natCast (by omega), by omega⟩

/-- Of the stops on a line there are no more than characters from its start on. -/
theorem nearestStops_eq {lines finish : Nat}
    (hlines : lines ≤ b.lines.length)
    (hfinish : b.EndsWithin lines finish) (hle : finish ≤ ctx.document.length)
    (cur : Cursor) (hcond : cond.InWords) {turns : Nat} (hturns : lines < turns) :
    ∃ r, Scan.nearestStops ctx (-1) lines finish cur cond = .ok r ∧
      nearestStops ctx (-1) turns (lines - 1) finish cur cond =
        some (.ok ⟨r.offsets, r.above - 1, r.cursor, r.condition⟩) ∧
      r.condition.InWords ∧ r.above ≤ lines ∧
      r.offsets.length + Buffer.extent (b.lines.take r.above) ≤ finish := by
  induction turns generalizing lines finish cur cond with
  | zero => exact absurd hturns (Nat.not_lt_zero lines)
  | succ turns ih =>
    cases lines with
    | zero =>
      refine ⟨⟨[], 0, cur, cond⟩, rfl, ?_, hcond, Nat.le_refl 0, Nat.zero_le _⟩
      rw [nearestStops, if_neg (by simp)]
    | succ line =>
      have hline : line < b.lines.length := hlines
      obtain ⟨hoffset, hlast⟩ := toOffset_line hover hline
      have hstart : Buffer.extent (b.lines.take line) ≤ finish := hfinish.1
      obtain ⟨stops, hstops, hplain, hkept, hcount⟩ := stopsIn_eq hover.inWords hle
        (Buffer.extent (b.lines.take line)) cur hcond
      have hfilter :=
        List.length_filter_le (fun n : Nat => decide (-1 < toPosition n)) stops.offsets
      have hbefore : ((line + 1 : Nat) : Int) - 1 = line := by omega
      rw [nearestStops, hbefore, if_pos (by omega), hoffset, Scan.nearestStops,
        hover.lineOffset, Buffer.lineOffset_eq hline]
      simp only [hstops, hplain, Option.bind_eq_bind, Option.bind_some,
        position?_eq (n := (line : Int) - 1) (by omega) (by omega), Option.pure_def]
      split
      · refine ⟨_, rfl, rfl, hkept, Nat.le_succ line, ?_⟩
        simp only
        omega
      · obtain ⟨r, hr, hchecked, hcond', habove, hbound⟩ := ih (Nat.le_of_lt hline)
          (Buffer.endsWithin_lineStart b line) (by omega) stops.cursor hkept
          (Nat.lt_of_succ_lt_succ hturns)
        exact ⟨r, hr, hchecked, hcond', by omega, by omega⟩

/-- A document has fewer lines than there are offsets. -/
theorem lines_lt_offsetLimit {lines : Nat}
    (h : lines ≤ b.lines.length) : lines < offsetLimit := by
  have hlimit : lastPosition + 1 < offsetLimit := by decide
  cases lines with
  | zero => omega
  | succ line =>
    have := (toOffset_line hover h).2
    omega

/-- Going up the lines, the depth grows by no more than the characters that are passed. -/
theorem openingEscapedFrom_eq (pair : CharPair) (depth lines finish turns : Nat)
    (cur : Cursor) (cond : Condition) (hlines : lines ≤ b.lines.length)
    (hfinish : b.EndsWithin lines finish) (hle : finish ≤ ctx.document.length)
    (hpos : 1 ≤ depth) (hdepth : depth + finish ≤ lastPosition + 1) (hcond : cond.InWords)
    (hturns : lines < turns) :
    openingEscapedFrom ctx pair turns depth (lines - 1) finish cur cond =
        some (Scan.openingEscapedFrom ctx pair depth lines finish cur cond) ∧
      ∀ bound length, Scan.openingEscapedFrom ctx pair depth lines finish cur cond ≠
        .error (.boundBeyondEnd bound length) := by
  induction turns generalizing depth lines finish cur cond with
  | zero => exact absurd hturns (Nat.not_lt_zero lines)
  | succ turns ih =>
    obtain ⟨r, hr, hchecked, hkept, habove, hcount⟩ :=
      nearestStops_eq hover hlines hfinish hle cur hcond
      (lines_lt_offsetLimit hover hlines)
    rw [openingEscapedFrom, hchecked, openingEscapedFrom_of_ok hr]
    simp only [Option.bind_eq_bind, Option.bind_some, Option.pure_def, List.isEmpty_iff]
    by_cases hnil : r.offsets = []
    · simp [hnil]
    · obtain ⟨hunwind, hbounds⟩ := unwind_eq ctx pair r.offsets.reverse depth hpos
        (by rw [List.length_reverse]; omega)
      rw [if_neg hnil, if_neg hnil, hunwind]
      cases hfound : Scan.unwind ctx pair depth r.offsets.reverse with
      | error e =>
        refine ⟨rfl, fun bound length h => ?_⟩
        cases h
        exact unwind_ne_boundBeyondEnd hover pair _ depth bound length hfound
      | ok found =>
        obtain ⟨peer, depth'⟩ := found
        cases peer with
        | some peer => exact ⟨rfl, fun _ _ h => nomatch h⟩
        | none =>
          obtain ⟨hpos', hdepth'⟩ := hbounds depth' hfound
          rw [List.length_reverse] at hdepth'
          have hlt : r.above < lines := nearestStops_above hr hnil
          have hline : r.above < b.lines.length := by omega
          obtain ⟨hoffset, hlast⟩ := toOffset_line hover hline
          have hbelow : position? ((r.above : Int) - 1 + 1) = some (r.above : Int) := by
            rw [Int.sub_add_cancel, position?_eq (by omega) (by omega)]
          simp only [Option.bind_some, hbelow, hoffset, hover.lineOffset,
            Buffer.lineOffset_eq hline]
          exact ih depth' r.above _ r.cursor r.condition (Nat.le_of_lt hline)
            (Buffer.endsWithin_lineStart b r.above) (by omega) hpos' (by omega) hkept
            (by omega)

theorem openingPeerEscaped_eq (start : Nat) (pair : CharPair) (escape : Char)
    (cur : Cursor) :
    Agrees (openingPeerEscaped start pair escape ctx cur)
      (Scan.openingPeerEscaped start pair escape ctx cur) := by
  have hlast := hover.stated
  have hmin : min start ctx.document.length ≤ ctx.document.length := Nat.min_le_right _ _
  rw [openingPeerEscaped, Scan.openingPeerEscaped, hover.lineOfOffset]
  by_cases hinside : min start ctx.document.length ≤ b.length
  · have hne : b.lines ≠ [] :=
      hover.made.canonical ▸ Line.splitAll_ne_nil b.text
    have hline := (Buffer.lineIndex_bounds _ (min start ctx.document.length) hne).1
    obtain ⟨hchecked, hfault⟩ := openingEscapedFrom_eq hover pair 1
      (Buffer.lineIndex b.lines (min start ctx.document.length) + 1)
      (min start ctx.document.length) offsetLimit cur (.escaping pair.chars escape) hline
      (Buffer.endsWithin_lineIndex hne hinside) hmin (Nat.le_refl 1) (by omega)
      (Condition.inWords_escaping pair.chars escape) (lines_lt_offsetLimit hover hline)
    rw [Int.natCast_succ, Int.add_sub_cancel] at hchecked
    simp only [Buffer.lineOfOffset_eq hinside, toPosition_of_le (toOffset_line hover hline).2,
      hchecked, Option.bind_some, Option.pure_def, bind, Except.bind]
    cases hr : Scan.openingEscapedFrom ctx pair 1
      (Buffer.lineIndex b.lines (min start ctx.document.length) + 1)
      (min start ctx.document.length) cur (.escaping pair.chars escape) with
    | ok r => exact ⟨r, rfl, rfl⟩
    | error e =>
      cases e with
      | boundBeyondEnd bound length => exact absurd hr (hfault bound length)
      | _ => exact ⟨(none, cur), rfl, rfl⟩
  · rw [Buffer.lineOfOffset_beyond (Nat.lt_of_not_le hinside)]
    exact ⟨(none, cur), rfl, rfl⟩

end

theorem reached_eq {o : Outcome} (h : o.stopped → 0 ≤ o.cursor.position)
    (h' : o.cursor.position ≤ lastPosition) : reached o = o.cursor.position := by
  rw [reached, Outcome.found?]
  cases hstopped : o.stopped with
  | false => rfl
  | true =>
    have hoffset := toOffset_of_nonneg (h hstopped) h'
    simp only [if_true]
    rw [toPosition_of_le (by omega), hoffset]

/-- A backward scan from before the stated end ends there or further back. -/
theorem backwardFrom_within (ctx : Context) (start : Int) (cur : Cursor) (cond : Condition) :
    ((backwardFrom ctx start .unbound cur cond).stopped →
      0 ≤ (backwardFrom ctx start .unbound cur cond).cursor.position) ∧
      -1 ≤ (backwardFrom ctx start .unbound cur cond).cursor.position ∧
      (backwardFrom ctx start .unbound cur cond).cursor.position ≤ max start (-1) := by
  rw [backwardFrom]
  split
  · exact ⟨fun h => absurd h Bool.false_ne_true, Int.le_refl _, Int.le_max_right _ _⟩
  · obtain ⟨hge, hle⟩ := backward_within ctx (-1) (cur.moveTo start) cond
    exact ⟨fun hstopped => (backward_stopped ctx (-1) (cur.moveTo start) cond hstopped).2, hge, hle⟩

theorem findRegion_eq (hctx : ctx.InWords) (position : Nat) (cond : Condition)
    (hcond : cond.InWords) (allowClosing : Bool) (cur : Cursor) :
    Agrees (findRegion position cond allowClosing ctx cur)
      (Scan.findRegion position cond allowClosing ctx cur) := by
  have hlast := hctx.stated
  have hmin : min position ctx.document.length ≤ ctx.document.length := Nat.min_le_right _ _
  rw [findRegion, Scan.findRegion, ctx.limit_unbound, toPosition_of_le hlast,
    toPosition_of_le (Nat.le_trans hmin hlast)]
  generalize min position ctx.document.length = origin at hmin ⊢
  obtain ⟨hscan, hkept⟩ := scanForward_of_le hctx .unbound ctx.document.length rfl (Nat.le_refl _)
    hmin cur hcond
  obtain ⟨hge, hle⟩ := forward_within ctx ctx.document.length (cur.moveTo origin) cond
  rw [Cursor.position_moveTo] at hge
  simp only [hscan, Option.bind_eq_bind, Option.bind_some, Option.pure_def, Except.map]
  generalize Scan.forward ctx ctx.document.length (cur.moveTo origin) cond = ahead at *
  have hahead : reached ahead = ahead.cursor.position := reached_eq (fun _ => by omega) (by omega)
  rw [hahead]
  by_cases hgoes : allowClosing || decide ((origin : Int) < ahead.cursor.position)
  · obtain ⟨hbehind, -⟩ := scanBackward_eq hctx (origin - 1) (by omega) ahead.cursor hkept
    obtain ⟨hstopped, hge', hle'⟩ :=
      backwardFrom_within ctx (origin - 1) ahead.cursor ahead.condition
    have hbefore : position? ((origin : Int) - 1) = some ((origin : Int) - 1) :=
      position?_eq (by omega) (by omega)
    simp only [if_pos hgoes, hbefore, hbehind, Option.bind_some]
    generalize backwardFrom ctx (origin - 1) .unbound ahead.cursor ahead.condition = behind at *
    have hreached : reached behind = behind.cursor.position := reached_eq hstopped (by omega)
    rw [hreached, position?_eq (by omega) (by omega), Option.bind_some]
    by_cases hlt : behind.cursor.position + 1 < ahead.cursor.position
    · have hoffset := toOffset_of_nonneg (Int.sub_nonneg_of_le (Int.le_of_lt hlt)) (by omega)
      rw [if_pos hlt, if_pos hlt, position?_eq (by omega) (by omega), Option.bind_some, ← hoffset,
        Int.toNat_natCast, hoffset]
      exact ⟨_, rfl, rfl⟩
    · rw [if_neg hlt, if_neg hlt]
      exact ⟨_, rfl, rfl⟩
  · simp only [if_neg hgoes]
    exact ⟨_, rfl, rfl⟩

theorem tally_eq (offsets : List Nat) (h : offsets.length ≤ lastPosition) :
    tally offsets = some offsets.length := by
  induction offsets with
  | nil => rfl
  | cons o rest ih =>
    rw [List.length_cons] at h
    rw [tally, ih (by omega), Option.bind_eq_bind, Option.bind_some, offset?_succ (by omega),
      List.length_cons]

theorem count_eq (hctx : ctx.InWords) (start finish : Nat) (char : Char) (cur : Cursor) :
    Agrees (count start finish char ctx cur) (Scan.count start finish char ctx cur) := by
  have hlast := hctx.stated
  obtain ⟨stops, hstops, hplain, -, hlength⟩ :=
    stopsIn_eq hctx (Nat.min_le_right finish _) start cur
    (Condition.inWords_gate_among [char])
  have htally := tally_eq stops.offsets (by omega)
  refine ⟨(stops.offsets.length, stops.cursor), ?_, ?_⟩
  · simp only [count, hstops, htally, Option.bind_eq_bind, Option.bind_some, Option.pure_def]
  · rw [Scan.count, hplain]
    rfl

/-- A forward scan from any offset; what its condition then remembers can be taken to the next scan.
-/
theorem forwardWith_eq (hctx : ctx.InWords) (start : Nat) (hcond : cond.InWords) (cur : Cursor) :
    ∃ found cond' cur', forwardWith start .unbound cond ctx cur = some ((found, cond'), cur') ∧
      Scan.forwardWith start .unbound cond ctx cur = .ok ((found, cond'), cur') ∧
        cond'.InWords := by
  have hlast := hctx.stated
  obtain ⟨hscan, hkept⟩ := scanForward_eq hctx .unbound ctx.document.length rfl (Nat.le_refl _)
    start cur hcond
  have hplain : Scan.forwardWith start .unbound cond ctx cur =
      let o := Scan.forward ctx ctx.document.length
        (cur.moveTo (min start ctx.document.length : Nat)) cond
      .ok ((o.found?, o.condition), o.cursor) := by
    rw [Scan.forwardWith, ctx.limit_unbound, toPosition_of_le hlast, Bound.above,
      toPosition_of_le (Nat.le_trans (Nat.min_le_right _ _) hlast)]
    rfl
  refine ⟨_, _, _, ?_, hplain, hkept⟩
  simp only [forwardWith, hscan, Option.bind_eq_bind, Option.bind_some, Option.pure_def]

theorem backwardWith_eq (hctx : ctx.InWords) (start : Nat) (hcond : cond.InWords) (cur : Cursor) :
    ∃ found cond' cur', backwardWith start .unbound cond ctx cur = some ((found, cond'), cur') ∧
      Scan.backwardWith start .unbound cond ctx cur = .ok ((found, cond'), cur') ∧
        cond'.InWords := by
  obtain ⟨hscan, hkept⟩ := scanBackward_eq hctx (min start lastPosition : Nat) (by omega) cur hcond
  refine ⟨_, _, _, ?_, rfl, hkept⟩
  simp only [backwardWith, hscan, Option.bind_eq_bind, Option.bind_some, Option.pure_def]

end

end Checked

/-- Whatever length a document states and whatever partitions a classifier tells, as long as both
are positions, no query fails and every query ends: no arithmetic leaves the offsets or the
positions, no depth goes below 0 and no bound lies beyond the stated end. -/
theorem position_queries_never_fail (b : Buffer) (hmade : b.Made) (hb : b.length ≤ lastPosition)
    (length : Nat) (hlength : length ≤ lastPosition) (classifier : Classifier)
    (hclassifier : ∀ offset p, classifier.partitionAt (b.stating length) offset = .ok p →
      p.offset + p.length ≤ lastPosition) (filter : Filter) (position : Nat) (cur : Cursor) :
    let ctx : Context := ⟨b.stating length, classifier, filter⟩
    (∀ pair, Checked.Agrees (Checked.closingPeer position pair ctx cur)
      (closingPeer position pair ctx cur)) ∧
    (∀ pair escape, Checked.Agrees (Checked.closingPeerEscaped position pair escape ctx cur)
      (closingPeerEscaped position pair escape ctx cur)) ∧
    (∀ pair, Checked.Agrees (Checked.openingPeer position pair ctx cur)
      (openingPeer position pair ctx cur)) ∧
    (∀ pair escape, Checked.Agrees (Checked.openingPeerEscaped position pair escape ctx cur)
      (openingPeerEscaped position pair escape ctx cur)) ∧
    Checked.Agrees (Checked.commonWord position ctx cur) (commonWord position ctx cur) ∧
    (∀ lineBreakIsBlank, Checked.Agrees (Checked.blankRegion position lineBreakIsBlank ctx cur)
      (blankRegion position lineBreakIsBlank ctx cur)) ∧
    (∀ finish char, Checked.Agrees (Checked.count position finish char ctx cur)
      (count position finish char ctx cur)) ∧
    (∀ cond : Condition, cond.InWords → ∃ found cond' cur',
      Checked.forwardWith position .unbound cond ctx cur = some ((found, cond'), cur') ∧
        forwardWith position .unbound cond ctx cur = .ok ((found, cond'), cur') ∧ cond'.InWords) ∧
    (∀ cond : Condition, cond.InWords → ∃ found cond' cur',
      Checked.backwardWith position .unbound cond ctx cur = some ((found, cond'), cur') ∧
        backwardWith position .unbound cond ctx cur = .ok ((found, cond'), cur') ∧
          cond'.InWords) := by
  intro ctx
  have hover : ctx.Over b := ⟨rfl, hmade, hb, hlength, fun {o p} hp => hclassifier o p hp⟩
  have hctx : ctx.InWords := hover.inWords
  refine ⟨fun pair => ?_, fun pair escape => ?_, fun pair => ?_, fun pair escape => ?_, ?_,
    fun lineBreakIsBlank => ?_, fun finish char => ?_, fun cond hcond => ?_, fun cond hcond => ?_⟩
  · exact Checked.closingPeerWith_eq hctx position pair (Condition.inWords_gate_among _) cur
  · exact Checked.closingPeerWith_eq hctx position pair (Condition.inWords_escaping _ _) cur
  · exact Checked.openingPeer_eq hctx position pair cur
  · exact Checked.openingPeerEscaped_eq hover position pair escape cur
  · exact Checked.findRegion_eq hctx position .nonWord trivial false cur
  · exact Checked.findRegion_eq hctx position (.nonBlank lineBreakIsBlank) trivial false cur
  · exact Checked.count_eq hctx position finish char cur
  · exact Checked.forwardWith_eq hctx position hcond cur
  · exact Checked.backwardWith_eq hctx position hcond cur

/-- The document states far too great a length, the classifier fails at most offsets and elsewhere
tells a partition that is not there, and the position is the greatest offset. -/
theorem position_queries_never_fail_lying :
    let b := Buffer.scratch ['(', '\\', ')', '\n', ')']
    let classifier : Classifier :=
      ⟨"lying", fun _ o => if o = 2 then .ok ⟨"elsewhere", 7, 1⟩ else .error .unclassified⟩
    let ctx : Context := ⟨b.stating lastPosition, classifier, .defaultOnly⟩
    b.Made ∧ b.length < lastPosition ∧
      Checked.Agrees (Checked.openingPeer (offsetLimit - 1) .parentheses ctx {})
        (openingPeer (offsetLimit - 1) .parentheses ctx {}) ∧
      ∃ found cond cur,
        Checked.backwardWith (offsetLimit - 1) .unbound (.gate (.among [')'])) ctx {} =
        some ((found, cond), cur) := by
  intro b classifier ctx
  have hmade : b.Made := .ofText "*scratch*" _
  have hb : b.length < lastPosition := by decide
  have hclassifier : ∀ offset p, classifier.partitionAt (b.stating lastPosition) offset = .ok p →
      p.offset + p.length ≤ lastPosition := by
    intro offset p hp
    simp only [classifier] at hp
    split at hp
    · cases hp
      decide
    · cases hp
  have hall := position_queries_never_fail b hmade (Nat.le_of_lt hb) lastPosition (Nat.le_refl _)
    classifier hclassifier .defaultOnly (offsetLimit - 1) {}
  obtain ⟨-, -, hopening, -, -, -, -, -, hbackward⟩ := hall
  obtain ⟨found, cond, cur, hscan, -⟩ := hbackward _ (Condition.inWords_gate_among [')'])
  exact ⟨hmade, hb, hopening .parentheses, found, cond, cur, hscan⟩

end PartitionScan.Scan
