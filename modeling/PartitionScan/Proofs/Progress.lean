import PartitionScan.Proofs.History
import PartitionScan.Proofs.Worlds

/-!
# Progress

A classifier that answers by the offset alone makes a world of a context, in which the loops are the
searches of the context. So the searches end there as in every world, within a turn for each
position or line.
-/
namespace PartitionScan.Scan

def Stops.behind (offsets : List Nat) (stops : Stops) : Stops :=
  { stops with offsets := offsets ++ stops.offsets }

theorem Stops.behind_behind (offsets offsets' : List Nat) (stops : Stops) :
    (stops.behind offsets').behind offsets = stops.behind (offsets ++ offsets') := by
  simp only [behind, List.append_assoc]

namespace World

/-- A document with a classifier that answers by the offset alone. -/
def of (ctx : Context) : World where
  document := ctx.document
  answer _ offset := ctx.classifier.partitionAt ctx.document offset
  filter := ctx.filter

section

variable (ctx : Context)

/-- A classifier that answers by the offset alone gives a look what it gives the condition. -/
theorem look_of (position : Int) (char : Char) (asked : List Nat) (cond : Condition) :
    (of ctx).look position char asked cond = cond.stop ctx position char := by
  induction cond generalizing asked with
  | gated inner seen ih =>
    simp only [look, Condition.stop, ih]
    rfl
  | _ => rfl

theorem scan_of (d : Direction) (limit : Int) (cur : Cursor) (cond : Condition) :
    (of ctx).scan d limit cur cond = some (d.scan ctx limit cur cond) := by
  have hturn (s : Cursor × Condition) : ((of ctx).scanTurn d limit s).map
      (Sum.elim (fun s => d.scan ctx limit s.1 s.2) id) = some (d.scan ctx limit s.1 s.2) := by
    obtain ⟨cur, cond⟩ := s
    have hread : (of ctx).document.charAt (toOffset cur.position) = ctx.charAt cur.position := rfl
    simp only [scanTurn, hread, look_of, d.scan_eq ctx limit cur cond]
    by_cases hleft : 0 < d.left limit cur.position
    · simp only [if_pos hleft]
      cases ctx.charAt cur.position with
      | error e => rfl
      | ok c => by_cases hstops : (cond.stop ctx cur.position c).stops <;> simp [hstops]
    · simp only [if_neg hleft]
      rfl
  obtain ⟨o, ho, -⟩ := (of ctx).scan_ends d limit cur cond
  exact loop_eq hturn ⟨o, ho⟩

theorem peer_of (d : Direction) (pair : CharPair) (limit : Int) (depth : Nat) (cur : Cursor)
    (cond : Condition) :
    (of ctx).peer d pair limit depth cur cond = some (d.peer ctx pair limit depth cur cond) := by
  have hturn (s : Nat × Cursor × Condition) : ((of ctx).peerTurn d pair limit s).map
      (Sum.elim (fun s => d.peer ctx pair limit s.1 s.2.1 s.2.2) id) =
        some (d.peer ctx pair limit s.1 s.2.1 s.2.2) := by
    obtain ⟨depth, cur, cond⟩ := s
    simp only [peerTurn, scan_of, Option.bind_eq_bind, Option.bind_some,
      d.peer_eq ctx pair limit depth cur cond]
    by_cases hstopped : (d.scan ctx limit cur cond).stopped
    · simp only [if_pos hstopped]
      split <;> rfl
    · simp only [if_neg hstopped]
      rfl
  exact loop_eq hturn ((of ctx).peer_ends d pair limit depth cur cond)

theorem stopsUpTo_eq (limit : Int) (cur : Cursor) (cond : Condition) :
    Scan.stopsUpTo ctx limit cur cond =
      let o := Scan.forward ctx limit cur cond
      let offset := toOffset o.cursor.position
      let next := o.cursor.position + 1
      if o.stopped then
        if next < limit then
          (Scan.stopsUpTo ctx limit (o.cursor.moveTo next) o.condition).behind [offset]
        else ⟨[offset], o.cursor, o.condition⟩
      else ⟨[], o.cursor, o.condition⟩ := by
  rw [Scan.stopsUpTo]
  rfl

theorem stopsUpTo_of (limit : Int) (cur : Cursor) (cond : Condition) :
    (of ctx).stopsUpTo limit cur cond = some (Scan.stopsUpTo ctx limit cur cond) := by
  have hturn (s : List Nat × Cursor × Condition) : ((of ctx).stopsTurn limit s).map
      (Sum.elim (fun s => (Scan.stopsUpTo ctx limit s.2.1 s.2.2).behind s.1) id) =
        some ((Scan.stopsUpTo ctx limit s.2.1 s.2.2).behind s.1) := by
    obtain ⟨offsets, cur, cond⟩ := s
    have hscan : Direction.forward.scan ctx limit cur cond = Scan.forward ctx limit cur cond := rfl
    simp only [stopsTurn, scan_of, hscan, Option.bind_eq_bind, Option.bind_some,
      stopsUpTo_eq ctx limit cur cond]
    by_cases hstopped : (Scan.forward ctx limit cur cond).stopped
    · simp only [if_pos hstopped]
      split
      · rw [Stops.behind_behind]
        rfl
      · rfl
    · simp only [if_neg hstopped, Stops.behind, List.append_nil]
      rfl
  exact loop_eq hturn ((of ctx).stopsUpTo_ends limit cur cond)

theorem stopsIn_of (start finish : Nat) (cur : Cursor) (cond : Condition) :
    (of ctx).stopsIn start finish cur cond = some (Scan.stopsIn ctx start finish cur cond) := by
  have hlimit : ((of ctx).after cur.asked).limit (.offset finish) = ctx.limit (.offset finish) :=
    rfl
  rw [stopsIn, Scan.stopsIn, hlimit]
  split
  · cases ctx.limit (.offset finish) with
    | error e => rfl
    | ok limit =>
      simp only [stopsUpTo_of, Option.map_some]
      rfl
  · rfl

theorem nearestStops_of (bound : Int) (lines finish : Nat) (cur : Cursor) (cond : Condition) :
    (of ctx).nearestStops bound lines finish cur cond =
      some (Scan.nearestStops ctx bound lines finish cur cond) := by
  have hturn (s : Nat × Nat × Cursor × Condition) : ((of ctx).nearestTurn bound s).map
      (Sum.elim (fun s => Scan.nearestStops ctx bound s.1 s.2.1 s.2.2.1 s.2.2.2) id) =
        some (Scan.nearestStops ctx bound s.1 s.2.1 s.2.2.1 s.2.2.2) := by
    obtain ⟨_ | line, finish, cur, cond⟩ := s
    · rfl
    · have hline : (of ctx).document.lineOffset line = ctx.document.lineOffset line := rfl
      simp only [nearestTurn, hline, stopsIn_of, Option.bind_eq_bind, Option.bind_some]
      rw [Scan.nearestStops]
      cases ctx.document.lineOffset line with
      | error e => rfl
      | ok start =>
        simp only
        cases Scan.stopsIn ctx start finish cur cond with
        | error e => rfl
        | ok stops =>
          simp only
          split <;> rfl
  obtain ⟨r, hr, -⟩ := (of ctx).nearestStops_ends bound lines finish cur cond
  exact loop_eq hturn ⟨r, hr⟩

theorem unwind_of (asked : List Nat) (pair : CharPair) (depth : Nat) (offsets : List Nat) :
    unwind ((of ctx).after asked) pair depth offsets = unwind ctx pair depth offsets := by
  induction offsets generalizing depth with
  | nil => rfl
  | cons offset rest ih =>
    rw [unwind, unwind]
    simp only [ih]
    rfl

theorem openingEscapedFrom_of (pair : CharPair) (depth lines finish : Nat) (cur : Cursor)
    (cond : Condition) : (of ctx).openingEscapedFrom pair depth lines finish cur cond =
      some (Scan.openingEscapedFrom ctx pair depth lines finish cur cond) := by
  have hturn (s : Nat × Nat × Nat × Cursor × Condition) : ((of ctx).escapedTurn pair s).map
      (Sum.elim
        (fun s => Scan.openingEscapedFrom ctx pair s.1 s.2.1 s.2.2.1 s.2.2.2.1 s.2.2.2.2) id) =
        some (Scan.openingEscapedFrom ctx pair s.1 s.2.1 s.2.2.1 s.2.2.2.1 s.2.2.2.2) := by
    obtain ⟨depth, lines, finish, cur, cond⟩ := s
    simp only [escapedTurn, nearestStops_of, unwind_of, Option.bind_eq_bind, Option.bind_some]
    cases hr : Scan.nearestStops ctx (-1) lines finish cur cond with
    | error e =>
      rw [openingEscapedFrom_of_error hr]
      rfl
    | ok r =>
      rw [openingEscapedFrom_of_ok hr]
      simp only
      by_cases hnil : r.offsets = []
      · rw [if_pos hnil, if_pos hnil]
        rfl
      · rw [if_neg hnil, if_neg hnil]
        cases Scan.unwind ctx pair depth r.offsets.reverse with
        | error e => rfl
        | ok found =>
          obtain ⟨_ | peer, depth⟩ := found
          · have hline : (of ctx).document.lineOffset r.above = ctx.document.lineOffset r.above :=
              rfl
            simp only [hline]
            cases ctx.document.lineOffset r.above <;> simp [Except.bind]
          · rfl
  exact loop_eq hturn ((of ctx).openingEscapedFrom_ends pair depth lines finish cur cond)

theorem forwardWith_of (start : Nat) (bound : Bound) (cond : Condition) (cur : Cursor) :
    (of ctx).forwardWith start bound cond cur =
      some (Scan.forwardWith start bound cond ctx cur) := by
  have hlimit : ((of ctx).after cur.asked).limit bound = ctx.limit bound := rfl
  rw [forwardWith, Scan.forwardWith, hlimit]
  cases ctx.limit bound with
  | error e => rfl
  | ok limit =>
    simp only [scan_of, Option.map_some]
    rfl

theorem backwardWith_of (start : Nat) (bound : Bound) (cond : Condition) (cur : Cursor) :
    (of ctx).backwardWith start bound cond cur =
      some (Scan.backwardWith start bound cond ctx cur) := by
  have hempty : (of ctx).document.isEmpty = ctx.document.isEmpty := rfl
  rw [backwardWith, Scan.backwardWith, backwardFrom, hempty, scan_of]
  split <;> rfl

theorem count_of (start finish : Nat) (char : Char) (cur : Cursor) :
    (of ctx).count start finish char cur = some (Scan.count start finish char ctx cur) := by
  rw [count, stopsIn_of]
  rfl

theorem closingPeerWith_of (start : Nat) (pair : CharPair) (cond : Condition) (cur : Cursor) :
    (of ctx).closingPeerWith start pair cond cur =
      some (Scan.closingPeerWith start pair cond ctx cur) := by
  have hlimit : ((of ctx).after cur.asked).limit .unbound = ctx.limit .unbound := rfl
  have hlength : (of ctx).document.length = ctx.document.length := rfl
  simp only [closingPeerWith, Scan.closingPeerWith, hlimit, hlength, ctx.limit_unbound, peer_of]
  split <;> rfl

theorem openingPeerWith_of (start : Nat) (pair : CharPair) (cur : Cursor) :
    (of ctx).openingPeerWith start pair (.gate (.among pair.chars)) cur =
      some (Scan.openingPeer start pair ctx cur) := by
  rw [openingPeerWith, peer_of]
  rfl

theorem openingPeerEscaped_of (start : Nat) (pair : CharPair) (escape : Char) (cur : Cursor) :
    (of ctx).openingPeerEscaped start pair escape cur =
      some (Scan.openingPeerEscaped start pair escape ctx cur) := by
  have hlength : (of ctx).document.length = ctx.document.length := rfl
  have hline (offset : Nat) :
      (of ctx).document.lineOfOffset offset = ctx.document.lineOfOffset offset := rfl
  simp only [openingPeerEscaped, Scan.openingPeerEscaped, hlength, hline]
  cases ctx.document.lineOfOffset (min start ctx.document.length) with
  | error e => cases e <;> rfl
  | ok line =>
    have hfrom := openingEscapedFrom_of ctx pair 1 (line + 1) (min start ctx.document.length) cur
      (.escaping pair.chars escape)
    cases hfound : Scan.openingEscapedFrom ctx pair 1 (line + 1) (min start ctx.document.length) cur
      (.escaping pair.chars escape) with
    | ok r => simp [hfrom, hfound, bind, Except.bind]
    | error e => cases e <;> simp [hfrom, hfound, bind, Except.bind]

end

end World

/-- Whatever a document reads and a classifier answers, the look after one at a position is further
on, in either direction, and every scan, count and search for a peer ends within as many turns as
there are positions and lines for it, from any start, to any bound and with any condition. For a
classifier that answers by the offset alone these are the queries. -/
theorem searches_make_progress (w : World) (cond : Condition) (cur : Cursor) :
    (∀ position char asked,
      let v := w.look position char asked cond
      position < v.condition.nextForward position ∧ v.condition.nextBackward position < position) ∧
    (∀ start bound, (∃ r, w.forwardWith start bound cond cur = some r) ∧
      ∃ r, w.backwardWith start bound cond cur = some r) ∧
    (∀ start finish char, ∃ r, w.count start finish char cur = some r) ∧
    (∀ start pair, (∃ r, w.closingPeerWith start pair cond cur = some r) ∧
      (∃ r, w.openingPeerWith start pair cond cur = some r) ∧
      ∀ escape, ∃ r, w.openingPeerEscaped start pair escape cur = some r) ∧
    ∀ ctx : Context,
      (∀ position char asked,
        (World.of ctx).look position char asked cond = cond.stop ctx position char) ∧
      (∀ start bound,
        (World.of ctx).forwardWith start bound cond cur =
          some (forwardWith start bound cond ctx cur) ∧
        (World.of ctx).backwardWith start bound cond cur =
          some (backwardWith start bound cond ctx cur)) ∧
      (∀ start finish char,
        (World.of ctx).count start finish char cur = some (count start finish char ctx cur)) ∧
      ∀ start pair,
        (World.of ctx).closingPeerWith start pair cond cur =
          some (closingPeerWith start pair cond ctx cur) ∧
        (World.of ctx).openingPeerWith start pair (.gate (.among pair.chars)) cur =
          some (openingPeer start pair ctx cur) ∧
        ∀ escape, (World.of ctx).openingPeerEscaped start pair escape cur =
          some (openingPeerEscaped start pair escape ctx cur) := by
  refine ⟨fun position char asked => ?_, fun start bound => ?_, fun start finish char => ?_,
    fun start pair => ⟨?_, ?_, fun escape => ?_⟩, fun ctx => ⟨?_, ?_, ?_, ?_⟩⟩
  · exact ⟨Condition.lt_nextForward position _, Condition.nextBackward_lt position _⟩
  · exact ⟨w.forwardWith_ends start bound cond cur, w.backwardWith_ends start bound cond cur⟩
  · obtain ⟨stops, hstops⟩ :=
      w.stopsIn_ends start (min finish w.document.length) cur (.gate (.among [char]))
    exact ⟨_, by rw [World.count, hstops]; rfl⟩
  · exact w.closingPeerWith_ends start pair cond cur
  · obtain ⟨r, hr⟩ :=
      w.peer_ends .backward pair (-1) 1
        (cur.moveTo (toPosition (min start w.document.length) - 1)) cond
    exact ⟨_, by rw [World.openingPeerWith, hr]; rfl⟩
  · exact w.openingPeerEscaped_ends start pair escape cur
  · exact fun position char asked => World.look_of ctx position char asked cond
  · exact fun start bound =>
      ⟨World.forwardWith_of ctx start bound cond cur,
        World.backwardWith_of ctx start bound cond cur⟩
  · exact fun start finish char => World.count_of ctx start finish char cur
  · exact fun start pair => ⟨World.closingPeerWith_of ctx start pair cond cur,
      World.openingPeerWith_of ctx start pair cur,
      fun escape => World.openingPeerEscaped_of ctx start pair escape cur⟩

end PartitionScan.Scan
