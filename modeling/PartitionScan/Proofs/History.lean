import PartitionScan.Proofs.Directions
import PartitionScan.Scan.Scanner

/-!
# Answers do not depend on history

All queries of a scanner share one cursor, and some of them read it. But each sets the position
before it reads it, and reads the character only where a scan has just stopped. So whatever cursor
earlier queries have left, the answer is the same, and of questions asked one after the other each
is answered as if it were the first.
-/
namespace PartitionScan.Scan

/-- Two scans that ended alike: at the same position with the same memory, and if they stopped, on
the same character. The character of a scan that did not stop may be left from before. -/
structure Outcome.Alike (o o' : Outcome) : Prop where
  stopped : o.stopped = o'.stopped
  position : o.cursor.position = o'.cursor.position
  condition : o.condition = o'.condition
  char : o.stopped = true → o.cursor.char = o'.cursor.char

/-- Scans that did not stop ended alike if they ended at the same position. -/
theorem Outcome.Alike.of_unstopped {cur cur' : Cursor} (h : cur.position = cur'.position)
    (cond : Condition) : Outcome.Alike ⟨false, cur, cond⟩ ⟨false, cur', cond⟩ where
  stopped := rfl
  position := h
  condition := rfl
  char hstopped := absurd hstopped Bool.false_ne_true

theorem Outcome.Alike.found? {o o' : Outcome} (h : o.Alike o') : o.found? = o'.found? := by
  rw [Outcome.found?, Outcome.found?, h.stopped, h.position]

/-- Two results that look alike are both faults, and the same one, or neither is. -/
theorem eq_error_or_ok_of_map_eq {α β : Type} {view : α → β} {x y : Except Fault α}
    (h : x.map view = y.map view) :
    (∃ fault, x = .error fault ∧ y = .error fault) ∨
      ∃ a b, x = .ok a ∧ y = .ok b ∧ view a = view b := by
  cases x with
  | error fault =>
    cases y with
    | error fault' => exact .inl ⟨fault, rfl, congrArg Except.error (Except.error.inj h).symm⟩
    | ok b => cases h
  | ok a =>
    cases y with
    | error fault' => cases h
    | ok b => exact .inr ⟨a, b, rfl, rfl, Except.ok.inj h⟩

section

variable {d : Direction} {ctx : Context} {limit : Int} {cur : Cursor} {cond : Condition}

/-- A scan depends on the position of its cursor only. -/
theorem Direction.Run.alike {out : Outcome} (hrun : d.Run ctx limit cur cond out) (cur' : Cursor)
    (h : cur.position = cur'.position) : out.Alike (d.scan ctx limit cur' cond) := by
  induction hrun generalizing cur' with
  | @unreadable cur cond e hleft hread =>
    rw [h] at hleft hread
    rw [d.scan_eq, if_pos hleft, hread]
    exact .of_unstopped h cond
  | stopped hleft hread hlook hstops =>
    rw [h] at hleft hread hlook
    rw [d.scan_eq, if_pos hleft, hread]
    simp only [hlook, if_pos hstops]
    exact ⟨rfl, h, rfl, fun _ => rfl⟩
  | @passed cur cond c v out hleft hread hlook hstops hrest ih =>
    have hnext := ih ((cur'.read c v.asked).moveTo (d.next cur'.position v.condition))
      (congrArg (d.next · v.condition) h)
    rw [h] at hleft hread hlook
    rw [d.scan_eq, if_pos hleft, hread]
    simpa only [hlook, hstops, Bool.false_eq_true, if_false] using hnext
  | @exhausted cur cond hleft =>
    rw [h] at hleft
    rw [d.scan_eq, if_neg hleft]
    refine .of_unstopped ?_ cond
    rfl

/-- So does the search for a peer. -/
theorem Direction.PeerRun.fst_eq {pair : CharPair} {depth : Nat} {r : Option Nat × Cursor}
    (hrun : d.PeerRun ctx pair limit depth cur cond r) (cur' : Cursor)
    (h : cur.position = cur'.position) : r.1 = (d.peer ctx pair limit depth cur' cond).1 := by
  induction hrun generalizing cur' with
  | found hscan hstopped hzero =>
    have halike := hscan.alike cur' h
    rw [halike.char hstopped] at hzero
    rw [halike.stopped] at hstopped
    simp only [d.peer_eq ctx pair limit _ cur', if_pos hstopped, if_pos hzero]
    exact halike.found?
  | deeper hscan hstopped hdeep hrest ih =>
    have halike := hscan.alike cur' h
    have hchar := halike.char hstopped
    rw [halike.stopped] at hstopped
    simp only [d.peer_eq ctx pair limit _ cur', if_pos hstopped, ← hchar, if_neg hdeep,
      ← halike.position, ← halike.condition]
    exact ih _ rfl
  | nothing hscan hstopped =>
    have halike := hscan.alike cur' h
    rw [halike.stopped] at hstopped
    simp only [d.peer_eq ctx pair limit _ cur', hstopped, Bool.false_eq_true, if_false]

end

section

variable (ctx : Context) (limit : Int)

theorem forward_alike (cur cur' : Cursor) (cond : Condition) (h : cur.position = cur'.position) :
    (forward ctx limit cur cond).Alike (forward ctx limit cur' cond) :=
  (Direction.run_forward ctx limit cur cond).alike cur' h

theorem backward_alike (cur cur' : Cursor) (cond : Condition) (h : cur.position = cur'.position) :
    (backward ctx limit cur cond).Alike (backward ctx limit cur' cond) :=
  (Direction.run_backward ctx limit cur cond).alike cur' h

/-- A backward scan that sets the position itself does not depend on the cursor at all. -/
theorem backwardFrom_alike (position : Int) (bound : Bound) (cur cur' : Cursor) (cond : Condition) :
    (backwardFrom ctx position bound cur cond).Alike
      (backwardFrom ctx position bound cur' cond) := by
  rw [backwardFrom, backwardFrom]
  split
  · refine .of_unstopped ?_ cond
    rfl
  · exact backward_alike ctx _ (cur.moveTo position) (cur'.moveTo position) cond rfl

def Stops.view (s : Stops) : List Nat × Condition := (s.offsets, s.condition)

theorem stopsUpTo_view (cur : Cursor) (cond : Condition) :
    ∀ cur' : Cursor, cur.position = cur'.position →
      (stopsUpTo ctx limit cur cond).view = (stopsUpTo ctx limit cur' cond).view := by
  fun_induction stopsUpTo ctx limit cur cond with
  | case1 cur cond o hstopped next hlt rest ih =>
    intro cur' h
    have halike : o.Alike (forward ctx limit cur' cond) := forward_alike ctx limit cur cur' cond h
    have hrest := ih ((forward ctx limit cur' cond).cursor.moveTo next) rfl
    rw [stopsUpTo.eq_def ctx limit cur', dif_pos (halike.stopped ▸ hstopped),
      if_pos (halike.position ▸ hlt)]
    simp only [← halike.position, ← halike.condition]
    rw [Stops.view, Stops.view, Prod.mk.injEq] at hrest
    rw [Stops.view, Stops.view, Prod.mk.injEq]
    exact ⟨congrArg (toOffset o.cursor.position :: ·) hrest.1, hrest.2⟩
  | case2 cur cond o hstopped next hge =>
    intro cur' h
    have halike : o.Alike (forward ctx limit cur' cond) := forward_alike ctx limit cur cur' cond h
    rw [stopsUpTo.eq_def ctx limit cur', dif_pos (halike.stopped ▸ hstopped),
      if_neg (halike.position ▸ hge), Stops.view, Stops.view, halike.position, halike.condition]
  | case3 cur cond o hstopped =>
    intro cur' h
    have halike : o.Alike (forward ctx limit cur' cond) := forward_alike ctx limit cur cur' cond h
    rw [stopsUpTo.eq_def ctx limit cur', dif_neg (halike.stopped ▸ hstopped), Stops.view,
      Stops.view, halike.condition]

theorem stopsIn_view (start finish : Nat) (cur cur' : Cursor) (cond : Condition) :
    (stopsIn ctx start finish cur cond).map Stops.view =
      (stopsIn ctx start finish cur' cond).map Stops.view := by
  rw [stopsIn, stopsIn]
  split
  · cases ctx.limit (.offset finish) with
    | error fault => rfl
    | ok limit =>
      exact congrArg Except.ok (stopsUpTo_view ctx limit (cur.moveTo (toPosition start)) cond _ rfl)
  · rfl

theorem closingFrom_fst (pair : CharPair) (depth : Nat) (cur cur' : Cursor) (cond : Condition)
    (h : cur.position = cur'.position) :
    (closingFrom ctx pair limit depth cur cond).1 =
      (closingFrom ctx pair limit depth cur' cond).1 :=
  (Direction.forward.peer_run ctx pair limit depth cur cond).fst_eq cur' h

theorem openingFrom_fst (pair : CharPair) (depth : Nat) (cur cur' : Cursor) (cond : Condition)
    (h : cur.position = cur'.position) :
    (openingFrom ctx pair limit depth cur cond).1 =
      (openingFrom ctx pair limit depth cur' cond).1 :=
  (Direction.backward.peer_run ctx pair limit depth cur cond).fst_eq cur' h

def LineStops.view (r : LineStops) : List Nat × Nat × Condition := (r.offsets, r.above, r.condition)

/-- A line that is read forward sets the position itself, so that the lines above it are read alike.
-/
theorem nearestStops_view (bound : Int) (lines finish : Nat) (cur cur' : Cursor)
    (cond : Condition) :
    (nearestStops ctx bound lines finish cur cond).map LineStops.view =
      (nearestStops ctx bound lines finish cur' cond).map LineStops.view := by
  induction lines generalizing finish cur cur' cond with
  | zero => rfl
  | succ line ih =>
    rw [nearestStops, nearestStops]
    cases ctx.document.lineOffset line with
    | error fault => rfl
    | ok start =>
      rcases eq_error_or_ok_of_map_eq (stopsIn_view ctx start finish cur cur' cond) with
        ⟨fault, hstops, hstops'⟩ | ⟨stops, stops', hstops, hstops', hview⟩
      · simp only [hstops, hstops']
      · obtain ⟨hoffsets, hcondition⟩ := Prod.mk.inj hview
        simp only [hstops, hstops', ← hoffsets, ← hcondition]
        split
        · rfl
        · exact ih start stops.cursor stops'.cursor stops.condition

variable {ctx} in
/-- The search up the lines, once the stops of the nearest line are known. -/
theorem openingEscapedFrom_of_ok {pair : CharPair} {depth lines finish : Nat} {cur : Cursor}
    {cond : Condition} {r : LineStops}
    (h : nearestStops ctx (-1) lines finish cur cond = .ok r) :
    openingEscapedFrom ctx pair depth lines finish cur cond =
      if r.offsets = [] then .ok (none, r.cursor)
      else (unwind ctx pair depth r.offsets.reverse).bind fun found =>
        match found with
        | (some peer, _) => .ok (some peer, r.cursor)
        | (none, depth) => (ctx.document.lineOffset r.above).bind fun start =>
          openingEscapedFrom ctx pair depth r.above start r.cursor r.condition := by
  rw [openingEscapedFrom]
  split
  · next fault hfault => cases h.symm.trans hfault
  · next r' hr' =>
    cases h.symm.trans hr'
    by_cases hnil : r.offsets = []
    · rw [dif_pos hnil, if_pos hnil]
    · rw [dif_neg hnil, if_neg hnil]
      cases unwind ctx pair depth r.offsets.reverse with
      | error fault => rfl
      | ok found =>
        obtain ⟨peer, depth⟩ := found
        cases peer with
        | some peer => rfl
        | none => cases ctx.document.lineOffset r.above <;> rfl

variable {ctx} in
theorem openingEscapedFrom_of_error {pair : CharPair} {depth lines finish : Nat} {cur : Cursor}
    {cond : Condition} {fault : Fault}
    (h : nearestStops ctx (-1) lines finish cur cond = .error fault) :
    openingEscapedFrom ctx pair depth lines finish cur cond = .error fault := by
  rw [openingEscapedFrom]
  split
  · next fault' hfault => rw [Except.error.inj (hfault.symm.trans h)]
  · next r hr => cases h.symm.trans hr

/-- So the search up the lines does not depend on the cursor. -/
theorem openingEscapedFrom_fst (pair : CharPair) (depth lines finish : Nat) (cur cur' : Cursor)
    (cond : Condition) :
    (openingEscapedFrom ctx pair depth lines finish cur cond).map Prod.fst =
      (openingEscapedFrom ctx pair depth lines finish cur' cond).map Prod.fst := by
  induction lines using Nat.strongRecOn generalizing depth finish cur cur' cond with
  | ind lines ih =>
    rcases eq_error_or_ok_of_map_eq (nearestStops_view ctx (-1) lines finish cur cur' cond)
      with ⟨fault, hstops, hstops'⟩ | ⟨r, r', hstops, hstops', hview⟩
    · rw [openingEscapedFrom_of_error hstops, openingEscapedFrom_of_error hstops']
    · have hoffsets : r.offsets = r'.offsets := congrArg Prod.fst hview
      have habove : r.above = r'.above := congrArg (·.2.1) hview
      have hcondition : r.condition = r'.condition := congrArg (·.2.2) hview
      rw [openingEscapedFrom_of_ok hstops, openingEscapedFrom_of_ok hstops', ← hoffsets, ← habove,
        ← hcondition]
      by_cases hnil : r.offsets = []
      · rw [if_pos hnil, if_pos hnil]
        rfl
      · rw [if_neg hnil, if_neg hnil]
        cases unwind ctx pair depth r.offsets.reverse with
        | error fault => rfl
        | ok found =>
          obtain ⟨peer, depth⟩ := found
          cases peer with
          | some peer => rfl
          | none =>
            cases ctx.document.lineOffset r.above with
            | error fault => rfl
            | ok start =>
              exact ih r.above (nearestStops_above hstops hnil) depth start r.cursor r'.cursor
                r.condition

end

/-- A query whose answer does not depend on the cursor. -/
def Query.Steady {α : Type} (q : Query α) : Prop :=
  ∀ ctx cur cur', (q ctx cur).map Prod.fst = (q ctx cur').map Prod.fst

def Query.answered {α β : Type} (f : α → β) (q : Query α) : Query β := fun ctx cur =>
  (q ctx cur).map fun r => (f r.1, r.2)

theorem Query.Steady.answered {α β : Type} {q : Query α} (h : q.Steady) (f : α → β) :
    (q.answered f).Steady := by
  intro ctx cur cur'
  rcases eq_error_or_ok_of_map_eq (h ctx cur cur') with ⟨fault, hq, hq'⟩ | ⟨a, b, hq, hq', hfst⟩
  · rw [Query.answered, Query.answered, hq, hq']
  · rw [Query.answered, Query.answered, hq, hq']
    exact congrArg (fun answer => Except.ok (f answer)) hfst

theorem Query.Steady.offset {q : Query (Option Nat × Condition)} (h : q.Steady) :
    q.offset.Steady :=
  h.answered Prod.fst

theorem steady_forwardWith (start : Nat) (bound : Bound) (cond : Condition) :
    (forwardWith start bound cond).Steady := by
  intro ctx cur cur'
  rw [forwardWith, forwardWith]
  cases ctx.limit bound with
  | error fault => rfl
  | ok limit =>
    have halike := forward_alike ctx limit
      (cur.moveTo (toPosition (min start (bound.above ctx.document.length))))
      (cur'.moveTo (toPosition (min start (bound.above ctx.document.length)))) cond rfl
    exact congrArg Except.ok (Prod.ext halike.found? halike.condition)

theorem steady_backwardWith (start : Nat) (bound : Bound) (cond : Condition) :
    (backwardWith start bound cond).Steady := by
  intro ctx cur cur'
  have halike := backwardFrom_alike ctx (min start lastPosition : Nat) bound cur cur' cond
  exact congrArg Except.ok (Prod.ext halike.found? halike.condition)

theorem steady_count (start finish : Nat) (char : Char) : (count start finish char).Steady := by
  intro ctx cur cur'
  rcases eq_error_or_ok_of_map_eq (stopsIn_view ctx start (min finish ctx.document.length)
    cur cur' (.gate (.among [char]))) with
      ⟨fault, hstops, hstops'⟩ | ⟨s, s', hstops, hstops', hview⟩
  · rw [count, count, hstops, hstops']
  · rw [count, count, hstops, hstops']
    exact congrArg (fun view => Except.ok view.1.length) hview

theorem steady_closingPeerWith (start : Nat) (pair : CharPair) (cond : Condition) :
    (closingPeerWith start pair cond).Steady := by
  intro ctx cur cur'
  have hfst := closingFrom_fst ctx (toPosition ctx.document.length) pair 1
    (cur.moveTo (toPosition (min (start + 1) ctx.document.length)))
    (cur'.moveTo (toPosition (min (start + 1) ctx.document.length))) cond rfl
  by_cases hstart : start < ctx.document.length
  · simp only [closingPeerWith, if_pos hstart, Context.limit_unbound, Except.map, hfst]
  · simp only [closingPeerWith, if_neg hstart, Except.map]

theorem steady_openingPeer (start : Nat) (pair : CharPair) : (openingPeer start pair).Steady := by
  intro ctx cur cur'
  exact congrArg Except.ok (openingFrom_fst ctx _ pair 1 (cur.moveTo _) (cur'.moveTo _) _ rfl)

theorem steady_openingPeerEscaped (start : Nat) (pair : CharPair) (escape : Char) :
    (openingPeerEscaped start pair escape).Steady := by
  intro ctx cur cur'
  rw [openingPeerEscaped, openingPeerEscaped]
  cases hline : ctx.document.lineOfOffset (min start ctx.document.length) with
  | error fault => cases fault <;> rfl
  | ok line =>
    rcases eq_error_or_ok_of_map_eq (openingEscapedFrom_fst ctx pair 1 (line + 1)
      (min start ctx.document.length) cur cur' (.escaping pair.chars escape)) with
      ⟨fault, hfound, hfound'⟩ | ⟨a, b, hfound, hfound', hfst⟩
    · simp only [Bind.bind, Except.bind, hfound, hfound']
      cases fault <;> rfl
    · simp only [Bind.bind, Except.bind, hfound, hfound']
      exact congrArg Except.ok hfst

/-- The run around a position is read off the cursor, at positions that its own two scans have set.
-/
theorem steady_findRegion (position : Nat) (cond : Condition) (allowClosing : Bool) :
    (findRegion position cond allowClosing).Steady := by
  intro ctx cur cur'
  have hahead := forward_alike ctx (toPosition ctx.document.length)
    (cur.moveTo (toPosition (min position ctx.document.length)))
    (cur'.moveTo (toPosition (min position ctx.document.length))) cond rfl
  rw [findRegion, findRegion, Context.limit_unbound]
  simp only [Except.map, ← hahead.position, ← hahead.condition]
  split
  · have hbehind := backwardFrom_alike ctx
      (toPosition (min position ctx.document.length) - 1) .unbound
      (forward ctx (toPosition ctx.document.length)
        (cur.moveTo (toPosition (min position ctx.document.length))) cond).cursor
      (forward ctx (toPosition ctx.document.length)
        (cur'.moveTo (toPosition (min position ctx.document.length))) cond).cursor
      (forward ctx (toPosition ctx.document.length)
        (cur.moveTo (toPosition (min position ctx.document.length))) cond).condition
    rw [← hbehind.position]
    split <;> rfl
  · rfl

theorem steady_isBlankLine (position : Nat) : (isBlankLine position).Steady := by
  intro ctx cur cur'
  rw [isBlankLine, isBlankLine]
  cases ctx.document.lineRegionOfOffset position with
  | error fault => rfl
  | ok line =>
    simp only [Bind.bind, Except.bind]
    split
    · rfl
    · have hsteady : (nonBlankForward line.offset (.offset line.finish) false).Steady :=
        (steady_forwardWith _ _ _).offset
      rcases eq_error_or_ok_of_map_eq (hsteady ctx cur cur') with
        ⟨fault, hq, hq'⟩ | ⟨a, b, hq, hq', hfst⟩
      · rw [hq, hq']
      · rw [hq, hq']
        exact congrArg (fun found => Except.ok found.isNone) hfst

inductive Question where
  | forward (start : Nat) (bound : Bound) (char : Char)
  | forwardAny (start : Nat) (bound : Bound) (chars : List Char)
  | backward (start : Nat) (bound : Bound) (char : Char)
  | backwardAny (start : Nat) (bound : Bound) (chars : List Char)
  | count (start finish : Nat) (char : Char)
  | closingPeer (start : Nat) (pair : CharPair)
  | closingPeerEscaped (start : Nat) (pair : CharPair) (escape : Char)
  | openingPeer (start : Nat) (pair : CharPair)
  | openingPeerEscaped (start : Nat) (pair : CharPair) (escape : Char)
  | nonBlankForward (start : Nat) (bound : Bound) (lineBreakIsBlank : Bool)
  | nonBlankBackward (start : Nat) (bound : Bound) (lineBreakIsBlank : Bool)
  | blankRegion (position : Nat) (lineBreakIsBlank : Bool)
  | commonWord (position : Nat)
  | isBlankLine (position : Nat)
  | textBlock (position₁ position₂ : Nat)
  deriving DecidableEq, Repr

inductive Answer where
  | offset (found : Option Nat)
  | number (n : Nat)
  | region (found : Option Region)
  | truth (holds : Bool)
  | block (lines : Region)
  deriving DecidableEq, Repr

namespace Question

def query : Question → Query Answer
  | forward start bound char => (Scan.forwardAny start bound [char]).answered .offset
  | forwardAny start bound chars => (Scan.forwardAny start bound chars).answered .offset
  | backward start bound char => (Scan.backwardAny start bound [char]).answered .offset
  | backwardAny start bound chars => (Scan.backwardAny start bound chars).answered .offset
  | count start finish char => (Scan.count start finish char).answered .number
  | closingPeer start pair => (Scan.closingPeer start pair).answered .offset
  | closingPeerEscaped start pair escape =>
    (Scan.closingPeerEscaped start pair escape).answered .offset
  | openingPeer start pair => (Scan.openingPeer start pair).answered .offset
  | openingPeerEscaped start pair escape =>
    (Scan.openingPeerEscaped start pair escape).answered .offset
  | nonBlankForward start bound lineBreakIsBlank =>
    (Scan.nonBlankForward start bound lineBreakIsBlank).answered .offset
  | nonBlankBackward start bound lineBreakIsBlank =>
    (Scan.nonBlankBackward start bound lineBreakIsBlank).answered .offset
  | blankRegion position lineBreakIsBlank =>
    (Scan.blankRegion position lineBreakIsBlank).answered .region
  | commonWord position => (Scan.commonWord position).answered .region
  | isBlankLine position => (Scan.isBlankLine position).answered .truth
  | textBlock position₁ position₂ => fun ctx cur =>
    (Scan.textBlock ctx.document position₁ position₂).map fun r => (.block r, cur)

theorem steady_query (q : Question) : q.query.Steady := by
  cases q with
  | forward start bound char => exact (steady_forwardWith _ _ _).offset.answered _
  | forwardAny start bound chars => exact (steady_forwardWith _ _ _).offset.answered _
  | backward start bound char => exact (steady_backwardWith _ _ _).offset.answered _
  | backwardAny start bound chars => exact (steady_backwardWith _ _ _).offset.answered _
  | count start finish char => exact (steady_count _ _ _).answered _
  | closingPeer start pair => exact (steady_closingPeerWith _ _ _).answered _
  | closingPeerEscaped start pair escape => exact (steady_closingPeerWith _ _ _).answered _
  | openingPeer start pair => exact (steady_openingPeer _ _).answered _
  | openingPeerEscaped start pair escape => exact (steady_openingPeerEscaped _ _ _).answered _
  | nonBlankForward start bound lineBreakIsBlank =>
    exact (steady_forwardWith _ _ _).offset.answered _
  | nonBlankBackward start bound lineBreakIsBlank =>
    exact (steady_backwardWith _ _ _).offset.answered _
  | blankRegion position lineBreakIsBlank => exact (steady_findRegion _ _ _).answered _
  | commonWord position => exact (steady_findRegion _ _ _).answered _
  | isBlankLine position => exact (steady_isBlankLine _).answered _
  | textBlock position₁ position₂ =>
    intro ctx cur cur'
    simp only [query]
    cases Scan.textBlock ctx.document position₁ position₂ <;> rfl

end Question

namespace Scanner

/-- The answers to questions asked one after the other, each with the cursor that the last has left.
What is left by a question that fails is given apart, for it may fail after any number of steps. -/
def askAll (s : Scanner) (failed : Question → Cursor → Cursor) :
    List Question → List (Except Fault Answer)
  | [] => []
  | q :: rest =>
    match s.ask q.query with
    | .ok (answer, s') => .ok answer :: s'.askAll failed rest
    | .error fault => .error fault :: askAll { s with cursor := failed q s.cursor } failed rest

theorem ask_eq {α : Type} (s : Scanner) (q : Query α) :
    s.ask q = s.context.bind fun ctx =>
      (q ctx s.cursor).map fun r => (r.1, { s with cursor := r.2 }) := by
  rw [ask]
  cases s.context with
  | error fault => rfl
  | ok ctx => cases hq : q ctx s.cursor <;> simp only [Bind.bind, Except.bind, hq] <;> rfl

/-- A steady query gives a scanner the answer that it gives with any other cursor. -/
theorem ask_fst {α : Type} {q : Query α} (h : q.Steady) (s : Scanner) (cur : Cursor) :
    (s.ask q).map Prod.fst = (({ s with cursor := cur } : Scanner).ask q).map Prod.fst := by
  rw [ask_eq, ask_eq]
  change _ = (s.context.bind _).map _
  cases s.context with
  | error fault => rfl
  | ok ctx =>
    rcases eq_error_or_ok_of_map_eq (h ctx s.cursor cur) with
      ⟨fault, hq, hq'⟩ | ⟨a, b, hq, hq', hfst⟩
    · simp only [Except.bind, hq, hq', Except.map]
    · simp only [Except.bind, hq, hq', Except.map, hfst]

/-- A query moves the cursor and nothing else. -/
theorem ask_snd {α : Type} {q : Query α} {s s' : Scanner} {answer : α}
    (h : s.ask q = .ok (answer, s')) : s' = { s with cursor := s'.cursor } := by
  rw [ask_eq] at h
  cases hctx : s.context with
  | error fault =>
    rw [hctx] at h
    cases h
  | ok ctx =>
    rw [hctx, Except.bind] at h
    cases hq : q ctx s.cursor with
    | error fault =>
      rw [hq] at h
      cases h
    | ok r =>
      rw [hq] at h
      cases h
      rfl

/-- A run of questions. -/
theorem askAll_eq_map (s : Scanner) (failed : Question → Cursor → Cursor) (cur : Cursor)
    (questions : List Question) : s.askAll failed questions =
      questions.map fun q => (({ s with cursor := cur } : Scanner).ask q.query).map Prod.fst := by
  induction questions generalizing s with
  | nil => rfl
  | cons q rest ih =>
    rw [askAll, List.map_cons, ← ask_fst q.steady_query s cur]
    cases hask : s.ask q.query with
    | error fault =>
      exact congrArg (Except.error fault :: ·) (ih { s with cursor := failed q s.cursor })
    | ok result =>
      obtain ⟨answer, s'⟩ := result
      have hrest := ih s'
      rw [ask_snd hask] at hrest ⊢
      exact congrArg (Except.ok answer :: ·) hrest

end Scanner

/-- Whatever a document reads and a classifier answers, a scanner answers every question alike with
any cursor; so of questions asked one after the other each is answered as by a scanner that has not
been asked before, be it repeated or others be asked in between. -/
theorem answers_forget_history :
    (∀ (q : Question) (ctx : Context) (cur cur' : Cursor),
      (q.query ctx cur).map Prod.fst = (q.query ctx cur').map Prod.fst) ∧
    ∀ (s : Scanner) (failed : Question → Cursor → Cursor) (questions : List Question),
      s.askAll failed questions =
        questions.map fun q => (({ s with cursor := {} } : Scanner).ask q.query).map Prod.fst :=
  ⟨Question.steady_query, fun s failed questions => s.askAll_eq_map failed {} questions⟩

end PartitionScan.Scan
