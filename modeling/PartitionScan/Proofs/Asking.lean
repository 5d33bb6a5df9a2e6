import PartitionScan.Proofs.Gating
import PartitionScan.Proofs.History
import PartitionScan.Proofs.KeptSpans

/-!
# What the classifier is asked

A gate asks the classifier at an offset unless it remembers that the offset is accepted. What it is
told holds of a whole partition: it remembers an accepted one until it has left it, and jumps over a
rejected one. So within one search nothing it has been told holds of an offset at which it asks
later on, however many scans the search is made of. The one exception is a rejected partition that
ends behind the last position. Such an end is no place to jump to, and the next offset is looked at
instead.
-/
namespace PartitionScan.Scan

/-- Whether what the classifier tells at an offset holds of another one: of the same offset, and of
all offsets in the partition told. -/
def Context.Tells (ctx : Context) (p o : Nat) : Prop :=
  o = p ∨ (ctx.partition p).Covers o

/-- What is told at an offset holds of all offsets between it and another one of which it holds. -/
theorem Context.Coherent.tells_between {ctx : Context} (h : ctx.Coherent) {p o q : Nat}
    (hp : p < ctx.document.length) (htells : ctx.Tells p q)
    (hbetween : p ≤ o ∧ o ≤ q ∨ q ≤ o ∧ o ≤ p) : ctx.Tells p o := by
  rcases htells with rfl | ⟨hle, hlt⟩
  · exact .inl (by omega)
  refine .inr ?_
  cases hc : ctx.classifier.partitionAt ctx.document p with
  | ok r =>
    have hr : ctx.partition p = r := by rw [Context.partition, hc]
    obtain ⟨hstart, hfinish, -⟩ := h p r hp hc
    rw [hr] at hle hlt ⊢
    exact ⟨by omega, by omega⟩
  | error e =>
    have hmissing : ctx.partition p = .missing p := by rw [Context.partition, hc]
    rw [hmissing] at hle hlt
    simp only [Partition.missing, Partition.finish] at hle hlt
    omega

/-- Whether a forward scan can leave each rejected partition at once: it ends at a position, or no
offset of the text is behind its first one. -/
def Context.Leavable (ctx : Context) : Prop :=
  ∀ o < ctx.document.length, ctx.accepts o = false → (ctx.partition o).finish ≤ lastPosition ∨
    ctx.document.length ≤ (ctx.partition o).offset + 1

/-- Offsets at which the classifier was asked, the latest first, such that nothing told at one of
them holds of a later one. -/
structure Fresh (ctx : Context) (asked : List Nat) : Prop where
  within : ∀ o ∈ asked, o < ctx.document.length
  apart : asked.Pairwise fun later earlier => ¬ ctx.Tells earlier later

namespace Direction

def Ahead : Direction → Int → Nat → Prop
  | .forward, position, o => position ≤ o
  | .backward, position, o => (o : Int) ≤ position

/-- Whether a scan from a position reads at no position that wraps around to an offset of the text.
-/
def Within : Direction → Context → Int → Int → Prop
  | .forward, ctx, limit, position => limit ≤ ctx.document.length ∧ 0 ≤ position
  | .backward, _, limit, position => -lastPosition - 1 ≤ limit ∧ position ≤ lastPosition

theorem ahead_self (d : Direction) (o : Nat) : d.Ahead o o := by
  cases d <;> exact Int.le_refl _

theorem Ahead.of_next {d : Direction} {position : Int} {cond : Condition} {o : Nat}
    (h : d.Ahead (d.next position cond) o) : d.Ahead position o := by
  have hforward := cond.lt_nextForward position
  have hbackward := cond.nextBackward_lt position
  cases d <;> simp only [Ahead, next] at h ⊢ <;> omega

theorem not_ahead_next (d : Direction) (o : Nat) (cond : Condition) :
    ¬ d.Ahead (d.next o cond) o := by
  have hforward := cond.lt_nextForward o
  have hbackward := cond.nextBackward_lt o
  cases d <;> simp only [Ahead, next] <;> omega

/-- An offset lies between those that are not ahead of it and those that are. -/
theorem between (d : Direction) {o p q : Nat} (hp : ¬ d.Ahead o p) (hq : d.Ahead o q) :
    p ≤ o ∧ o ≤ q ∨ q ≤ o ∧ o ≤ p := by
  cases d <;> simp only [Ahead] at hp hq <;> omega

section

variable {d : Direction} {ctx : Context} {limit position : Int} (h : d.Within ctx limit position)
include h

theorem Within.next (cond : Condition) : d.Within ctx limit (d.next position cond) := by
  have hforward := cond.lt_nextForward position
  have hbackward := cond.nextBackward_lt position
  cases d <;> simp only [Within, Direction.next] at h ⊢ <;> omega

/-- The next scan begins behind a stop. -/
theorem Within.step {stop : Int} (hpos : 0 < d.left limit stop)
    (hle : d.left limit stop ≤ d.left limit position) : d.Within ctx limit (d.step stop) := by
  cases d <;> simp only [Within, left, Direction.step] at h hpos hle ⊢ <;> omega

theorem Within.offset_of_charAt (hctx : ctx.Faithful) (hleft : 0 < d.left limit position) {c : Char}
    (hc : ctx.charAt position = .ok c) :
    ∃ o : Nat, position = o ∧ toOffset o = o ∧ o < ctx.document.length := by
  have hlength := hctx.length_le
  cases d <;> simp only [Within, left] at h hleft <;>
    exact hctx.offset_of_charAt (by omega) (by omega) hc

end

end Direction

def recalls (seen : Option Seen) (o : Nat) : Bool :=
  seen.any fun s => s.accepted && s.start ≤ o && o < s.finish

theorem accepted_of_recalls {seen : Option Seen} {o : Nat} (h : recalls seen o = true) :
    ∃ s, seen = some s ∧ s.accepted = true := by
  obtain ⟨s, hs, hrecalls⟩ := Option.any_eq_true _ _ |>.mp h
  simp only [Bool.and_eq_true] at hrecalls
  exact ⟨s, hs, hrecalls.1.1⟩

/-- What a gate has asked so far, when it may still look at the offsets ahead: of those it remembers
all of which it has been told. -/
structure Asked (ctx : Context) (inner : Condition) (ahead : Nat → Prop) (cond : Condition)
    (asked : List Nat) : Prop extends Fresh ctx asked where
  behind : ∀ o ∈ asked, ¬ ahead o
  gate : ∃ seen, cond = .gated inner seen ∧
    ∀ p ∈ asked, ∀ o, ahead o → o < ctx.document.length → ctx.Tells p o → recalls seen o = true

theorem fresh_nil (ctx : Context) : Fresh ctx [] where
  within _ h := nomatch h
  apart := .nil

theorem asked_gate (ctx : Context) (inner : Condition) (ahead : Nat → Prop) :
    Asked ctx inner ahead inner.gate [] where
  toFresh := fresh_nil ctx
  behind _ h := nomatch h
  gate := ⟨none, rfl, fun _ h => nomatch h⟩

section

variable {ctx : Context} {inner : Condition} {ahead ahead' : Nat → Prop} {cond : Condition}
  {asked : List Nat}

theorem Asked.mono (h : Asked ctx inner ahead cond asked) (hless : ∀ o, ahead' o → ahead o) :
    Asked ctx inner ahead' cond asked := by
  obtain ⟨seen, hcond, hrecalls⟩ := h.gate
  exact ⟨h.toFresh, fun o ho hahead => h.behind o ho (hless o hahead), seen, hcond,
    fun p hp o ho => hrecalls p hp o (hless o ho)⟩

variable {test : Char → Bool} (htest : inner.test? = some test) {seen : Option Seen} {o : Nat}
  {c : Char}
include htest

theorem stop_recalled (ho : toOffset o = o) (h : recalls seen o = true) :
    (Condition.gated inner seen).stop ctx o c =
      { stops := test c, condition := .gated inner seen } := by
  rw [Condition.stop, ho, Condition.stop_of_test htest]
  exact if_pos h

theorem stop_asked (ho : toOffset o = o) (h : recalls seen o = false) :
    (Condition.gated inner seen).stop ctx o c =
      { stops := ctx.accepts o && test c
        condition := .gated inner
          (some ⟨(ctx.partition o).offset, (ctx.partition o).finish, ctx.accepts o⟩)
        asked := [o] } := by
  rw [Condition.stop, ho, if_neg (by simpa [recalls] using h), Condition.stop_of_test htest]
  simp only [Context.accepts_partition]
  cases ctx.accepts o <;> rfl

omit htest in
/-- Asking at the next offset. What is asked later lies beyond it, and beyond its partition if that
is rejected. -/
theorem Asked.ask (h : Asked ctx inner ahead (.gated inner seen) asked) (hctx : ctx.Coherent)
    (ho : o < ctx.document.length) (hahead : ahead o) (hask : recalls seen o = false)
    (hless : ∀ q, ahead' q → ahead q) (hpassed : ¬ ahead' o)
    (hbetween : ∀ p q, ¬ ahead p → ahead' q → p ≤ o ∧ o ≤ q ∨ q ≤ o ∧ o ≤ p)
    (hjump : ctx.accepts o = false → ∀ q, ahead' q → q < ctx.document.length →
      ¬ (ctx.partition o).Covers q) :
    Asked ctx inner ahead' (.gated inner
      (some ⟨(ctx.partition o).offset, (ctx.partition o).finish, ctx.accepts o⟩)) (o :: asked) := by
  obtain ⟨seen', hseen, hrecalls⟩ := h.gate
  cases hseen
  have hnew : ∀ p ∈ asked, ¬ ctx.Tells p o := by
    intro p hp htells
    exact nomatch hask.symm.trans (hrecalls p hp o hahead ho htells)
  refine ⟨⟨?_, List.pairwise_cons.mpr ⟨hnew, h.apart⟩⟩, ?_, _, rfl, ?_⟩
  · exact List.forall_mem_cons.mpr ⟨ho, h.within⟩
  · exact List.forall_mem_cons.mpr ⟨hpassed, fun p hp hp' => h.behind p hp (hless p hp')⟩
  · refine List.forall_mem_cons.mpr ⟨?_, ?_⟩
    · rintro q hq hlt (rfl | hcovers)
      · exact absurd hq hpassed
      · cases haccepts : ctx.accepts o with
        | true => simp [recalls, hcovers.1, hcovers.2]
        | false => exact absurd hcovers (hjump haccepts q hq hlt)
    · intro p hp q hq _ htells
      exact absurd (hctx.tells_between (h.within p hp) htells
        (hbetween p q (h.behind p hp) hq)) (hnew p hp)

theorem next_accepted (d : Direction) {s : Seen} (h : s.accepted = true) (position : Int) :
    d.next position (.gated inner (some s)) = d.step position := by
  cases d with
  | forward =>
    rw [Direction.next, Condition.nextForward, if_pos h]
    exact Condition.nextForward_of_test htest position
  | backward =>
    rw [Direction.next, Condition.nextBackward, if_pos h]
    exact Condition.nextBackward_of_test htest position

omit htest in
/-- Behind the jump over a rejected partition there is no offset of it. Going forward this takes an
end to jump to. -/
theorem not_covers_next {d : Direction} (hctx : ctx.Coherent) (hfaithful : ctx.Faithful)
    (hleaves : d = .backward ∨ ctx.Leavable) (hlt : o < ctx.document.length)
    (hrejected : ctx.accepts o = false) {q : Nat} (hlength : q < ctx.document.length)
    (hq : d.Ahead (d.next o (.gated inner
      (some ⟨(ctx.partition o).offset, (ctx.partition o).finish, ctx.accepts o⟩))) q) :
    ¬ (ctx.partition o).Covers q := by
  rintro ⟨hle, hcovers⟩
  have hstart := (hctx.partition_spec hlt).1
  have hahead := hq.of_next
  cases d with
  | forward =>
    have hleavable : ctx.Leavable := hleaves.resolve_left Direction.noConfusion
    rw [Direction.Ahead] at hq hahead
    rw [Direction.next, Condition.nextForward] at hq
    simp only [hrejected, Bool.false_eq_true, if_false] at hq
    rcases hleavable o hlt hrejected with hposition | hshort
    · rw [toPosition_of_le hposition] at hq
      split at hq <;> omega
    · split at hq <;> omega
  | backward =>
    rw [Direction.Ahead] at hq hahead
    rw [Direction.next, Condition.nextBackward] at hq
    simp only [hrejected, Bool.false_eq_true, if_false,
      hfaithful.toPosition_eq (show (ctx.partition o).offset ≤ ctx.document.length by omega)] at hq
    split at hq <;> omega

/-- One look of a scan. -/
theorem Asked.look {d : Direction} (hctx : ctx.Coherent) (hfaithful : ctx.Faithful)
    (hleaves : d = .backward ∨ ctx.Leavable) (ho : toOffset o = o) (hlt : o < ctx.document.length)
    (h : Asked ctx inner (d.Ahead o) cond asked) (c : Char) :
    Asked ctx inner (d.Ahead (d.next o (cond.stop ctx o c).condition))
        (cond.stop ctx o c).condition ((cond.stop ctx o c).asked ++ asked) ∧
      ((cond.stop ctx o c).stops = true → d.next o (cond.stop ctx o c).condition = d.step o) := by
  obtain ⟨seen, rfl, -⟩ := h.gate
  cases hrecalls : recalls seen o with
  | true =>
    obtain ⟨s, rfl, haccepted⟩ := accepted_of_recalls hrecalls
    rw [stop_recalled htest ho hrecalls]
    exact ⟨h.mono fun q hq => hq.of_next, fun _ => next_accepted htest d haccepted o⟩
  | false =>
    rw [stop_asked htest ho hrecalls]
    refine ⟨h.ask hctx hlt (d.ahead_self o) hrecalls (fun q hq => hq.of_next) (d.not_ahead_next o _)
      (fun p q hp hq => d.between hp hq.of_next)
      (fun hrejected q hq hlength =>
        not_covers_next hctx hfaithful hleaves hlt hrejected hlength hq),
      fun hstops => ?_⟩
    rw [Bool.and_eq_true] at hstops
    exact next_accepted htest d hstops.1 o

end

def Cursor.AskedSince (cur : Cursor) (earlier : List Nat) (P : List Nat → Prop) : Prop :=
  ∃ asked, cur.asked = asked ++ earlier ∧ P asked

theorem Cursor.AskedSince.imp {cur : Cursor} {earlier : List Nat} {P P' : List Nat → Prop}
    (h : cur.AskedSince earlier P) (himp : ∀ asked, P asked → P' asked) :
    cur.AskedSince earlier P' := by
  obtain ⟨asked, heq, hasked⟩ := h
  exact ⟨asked, heq, himp asked hasked⟩

theorem Cursor.AskedSince.fresh {ctx : Context} {inner : Condition} {ahead : Nat → Prop}
    {cond : Condition} {cur : Cursor} {earlier : List Nat}
    (h : cur.AskedSince earlier (Asked ctx inner ahead cond)) :
    cur.AskedSince earlier (Fresh ctx) :=
  h.imp fun _ hasked => hasked.toFresh

section

variable {d : Direction} {ctx : Context} {inner : Condition} {test : Char → Bool}
  (htest : inner.test? = some test) (hctx : ctx.Coherent) (hfaithful : ctx.Faithful)
  (hleaves : d = .backward ∨ ctx.Leavable) {limit : Int} {earlier : List Nat} {cur : Cursor}
  {cond : Condition} {out : Outcome}
include htest hctx hfaithful hleaves

/-- A whole scan. If it stopped, the next may begin behind the stop. -/
theorem Direction.Run.asked (hrun : d.Run ctx limit cur cond out)
    (hwithin : d.Within ctx limit cur.position)
    (h : cur.AskedSince earlier (Asked ctx inner (d.Ahead cur.position) cond)) :
    out.cursor.AskedSince earlier (Asked ctx inner
      (fun q => out.stopped = true ∧ d.Ahead (d.step out.cursor.position) q) out.condition) := by
  induction hrun with
  | unreadable => exact h.imp fun _ hasked => hasked.mono fun q hq => absurd hq.1 Bool.false_ne_true
  | @stopped cur cond c v hleft hread hlook hstops =>
    obtain ⟨o, hposition, ho, hlt⟩ := hwithin.offset_of_charAt hfaithful hleft hread
    obtain ⟨asked, heq, hasked⟩ := h
    rw [hposition] at hasked hlook
    obtain ⟨hstep, hnext⟩ := hasked.look htest hctx hfaithful hleaves ho hlt c
    rw [hlook] at hstep hnext
    rw [hnext hstops, ← hposition] at hstep
    exact ⟨v.asked ++ asked, by simp [heq], hstep.mono fun q hq => hq.2⟩
  | @passed cur cond c v out hleft hread hlook hstops hrest ih =>
    obtain ⟨o, hposition, ho, hlt⟩ := hwithin.offset_of_charAt hfaithful hleft hread
    obtain ⟨asked, heq, hasked⟩ := h
    rw [hposition] at hasked hlook
    obtain ⟨hstep, -⟩ := hasked.look htest hctx hfaithful hleaves ho hlt c
    rw [hlook, ← hposition] at hstep
    exact ih (hwithin.next v.condition) ⟨v.asked ++ asked, by simp [heq], hstep⟩
  | exhausted => exact h.imp fun _ hasked => hasked.mono fun q hq => absurd hq.1 Bool.false_ne_true

/-- Scans for a peer follow each other through one gate. -/
theorem Direction.PeerRun.asked {pair : CharPair} {depth : Nat} {r : Option Nat × Cursor}
    (hrun : d.PeerRun ctx pair limit depth cur cond r) (hwithin : d.Within ctx limit cur.position)
    (h : cur.AskedSince earlier (Asked ctx inner (d.Ahead cur.position) cond)) :
    r.2.AskedSince earlier (Fresh ctx) := by
  induction hrun with
  | found hscan => exact (hscan.asked htest hctx hfaithful hleaves hwithin h).fresh
  | deeper hscan hstopped hdeep hrest ih =>
    have hasked := hscan.asked htest hctx hfaithful hleaves hwithin h
    obtain ⟨hpos, hle⟩ := hscan.left_stopped hstopped
    exact ih (hwithin.step hpos hle)
      (hasked.imp fun _ hasked => hasked.mono fun q hq => ⟨hstopped, hq⟩)
  | nothing hscan => exact (hscan.asked htest hctx hfaithful hleaves hwithin h).fresh

end

/-- So do scans forward for all stops. -/
theorem stopsUpTo_asked {ctx : Context} {inner : Condition} {test : Char → Bool}
    (htest : inner.test? = some test) (hctx : ctx.Coherent) (hfaithful : ctx.Faithful)
    (hleaves : ctx.Leavable) {limit : Int} {earlier : List Nat} (cur : Cursor) (cond : Condition)
    (hwithin : Direction.forward.Within ctx limit cur.position)
    (h : cur.AskedSince earlier (Asked ctx inner (Direction.forward.Ahead cur.position) cond)) :
    (stopsUpTo ctx limit cur cond).cursor.AskedSince earlier (Fresh ctx) := by
  fun_induction stopsUpTo ctx limit cur cond with
  | case1 cur cond o hstopped next hlt rest ih =>
    have hscan := Direction.run_forward ctx limit cur cond
    have hasked := hscan.asked htest hctx hfaithful (.inr hleaves) hwithin h
    obtain ⟨hpos, hle⟩ := hscan.left_stopped hstopped
    exact ih (hwithin.step hpos hle)
      (hasked.imp fun _ hasked => hasked.mono fun q hq => ⟨hstopped, hq⟩)
  | case2 cur cond =>
    exact ((Direction.run_forward ctx limit cur cond).asked htest hctx hfaithful (.inr hleaves)
      hwithin h).fresh
  | case3 cur cond =>
    exact ((Direction.run_forward ctx limit cur cond).asked htest hctx hfaithful (.inr hleaves)
      hwithin h).fresh

/-- Nothing has been asked before the first scan with a new gate. -/
theorem askedSince_gate (ctx : Context) (inner : Condition) (ahead : Nat → Prop) (cur : Cursor)
    (position : Int) :
    (cur.moveTo position).AskedSince cur.asked (Asked ctx inner ahead inner.gate) :=
  ⟨[], rfl, asked_gate ctx inner ahead⟩

def Query.Asks {α : Type} (q : Query α) (ctx : Context) (P : List Nat → Prop) : Prop :=
  ∀ cur, ∃ answer cur', q ctx cur = .ok (answer, cur') ∧ cur'.AskedSince cur.asked P

theorem exists_answer {α : Type} {result : Except Fault (α × Cursor)} {r : α × Cursor}
    (h : result = .ok r) {earlier : List Nat} {P : List Nat → Prop}
    (hasked : r.2.AskedSince earlier P) :
    ∃ answer cur', result = .ok (answer, cur') ∧ cur'.AskedSince earlier P :=
  ⟨r.1, r.2, h, hasked⟩

section

variable {α β : Type} {q : Query α} {ctx : Context} {P P' : List Nat → Prop}

theorem Query.Asks.imp (h : q.Asks ctx P) (himp : ∀ asked, P asked → P' asked) : q.Asks ctx P' := by
  intro cur
  obtain ⟨answer, cur', hq, hasked⟩ := h cur
  exact ⟨answer, cur', hq, hasked.imp himp⟩

theorem Query.Asks.answered (h : q.Asks ctx P) (f : α → β) : (q.answered f).Asks ctx P := by
  intro cur
  obtain ⟨answer, cur', hq, hasked⟩ := h cur
  exact ⟨f answer, cur', by rw [Query.answered, hq]; rfl, hasked⟩

theorem Query.Asks.of_answered {f : α → β} (h : (q.answered f).Asks ctx P) : q.Asks ctx P := by
  intro cur
  obtain ⟨answer, cur', hq, hasked⟩ := h cur
  rw [Query.answered] at hq
  cases hr : q ctx cur with
  | error fault =>
    rw [hr] at hq
    cases hq
  | ok r =>
    rw [hr] at hq
    obtain ⟨-, rfl⟩ := Prod.mk.inj (Except.ok.inj hq)
    exact ⟨r.1, r.2, rfl, hasked⟩

theorem Query.Asks.offset {q : Query (Option Nat × Condition)} (h : q.Asks ctx P) :
    q.offset.Asks ctx P :=
  h.answered Prod.fst

end

namespace Question

/-- Whether a question is one for a search through a single gate, and its bound is valid. -/
def OneGate (length : Nat) : Question → Prop
  | forward _ bound _ => bound.above length ≤ length
  | forwardAny _ bound _ => bound.above length ≤ length
  | backward _ _ _ => True
  | backwardAny _ _ _ => True
  | count _ _ _ => True
  | closingPeer _ _ => True
  | openingPeer _ _ => True
  | _ => False

def GoesBack : Question → Prop
  | backward _ _ _ => True
  | backwardAny _ _ _ => True
  | openingPeer _ _ => True
  | _ => False

end Question

theorem Bound.le_below (bound : Bound) : -lastPosition - 1 ≤ bound.below := by
  cases bound with
  | unbound => decide
  | offset n =>
    rw [Bound.below, toPosition, offsetLimit, lastPosition, Int.bmod_def]
    split <;> omega

section

variable {ctx : Context} (hctx : ctx.Coherent) (hfaithful : ctx.Faithful)
include hctx hfaithful

theorem asks_forwardAny (hleaves : ctx.Leavable) (start : Nat) {bound : Bound}
    (hbound : bound.above ctx.document.length ≤ ctx.document.length) (chars : List Char) :
    (forwardAny start bound chars).Asks ctx (Fresh ctx) := by
  refine Query.Asks.offset fun cur => ⟨_, _, forwardWith_eq hfaithful rfl hbound _ cur, ?_⟩
  exact ((Direction.run_forward ctx _ _ _).asked rfl hctx hfaithful (.inr hleaves)
    ⟨Int.ofNat_le.mpr hbound, Int.natCast_nonneg _⟩
    (askedSince_gate ctx (.among chars) _ cur _)).fresh

theorem asks_backwardAny (start : Nat) (bound : Bound) (chars : List Char) :
    (backwardAny start bound chars).Asks ctx (Fresh ctx) := by
  refine Query.Asks.offset fun cur => ⟨_, _, rfl, ?_⟩
  rw [backwardFrom]
  split
  · exact ⟨[], rfl, fresh_nil ctx⟩
  · exact ((Direction.run_backward ctx _ _ _).asked rfl hctx hfaithful (.inl rfl)
      ⟨bound.le_below, Int.ofNat_le.mpr (Nat.min_le_right start lastPosition)⟩
      (askedSince_gate ctx (.among chars) _ cur _)).fresh

theorem asks_count (hleaves : ctx.Leavable) (start finish : Nat) (char : Char) :
    (count start finish char).Asks ctx (Fresh ctx) := by
  intro cur
  rw [count, stopsIn]
  have hle : min finish ctx.document.length ≤ ctx.document.length := Nat.min_le_right finish _
  by_cases hlt : start < min finish ctx.document.length
  · rw [if_pos hlt, Context.limit_offset ctx _ hle, hfaithful.toPosition_eq hle,
      hfaithful.toPosition_eq (Nat.le_of_lt (Nat.lt_of_lt_of_le hlt hle))]
    exact ⟨_, _, rfl, stopsUpTo_asked rfl hctx hfaithful hleaves _ _
      ⟨Int.ofNat_le.mpr hle, Int.natCast_nonneg _⟩ (askedSince_gate ctx (.among [char]) _ cur _)⟩
  · rw [if_neg hlt]
    exact ⟨_, _, rfl, [], rfl, fresh_nil ctx⟩

theorem asks_closingPeer (hleaves : ctx.Leavable) (start : Nat) (pair : CharPair) :
    (closingPeer start pair).Asks ctx (Fresh ctx) := by
  intro cur
  rw [closingPeer, closingPeerWith]
  by_cases hlt : start < ctx.document.length
  · simp only [if_pos hlt, Context.limit_unbound,
      hfaithful.toPosition_eq (Nat.le_refl ctx.document.length),
      hfaithful.toPosition_eq (Nat.min_le_right (start + 1) ctx.document.length)]
    exact ⟨_, _, rfl, (Direction.forward.peer_run ctx pair _ 1 _ _).asked rfl hctx hfaithful
      (.inr hleaves)
      ⟨Int.le_refl _, Int.natCast_nonneg _⟩ (askedSince_gate ctx (.among pair.chars) _ cur _)⟩
  · simp only [if_neg hlt]
    exact ⟨_, _, rfl, [], rfl, fresh_nil ctx⟩

theorem asks_openingPeer (start : Nat) (pair : CharPair) :
    (openingPeer start pair).Asks ctx (Fresh ctx) := by
  intro cur
  have hlength := hfaithful.length_le
  have hlimit : -(lastPosition : Int) - 1 ≤ -1 := by
    rw [lastPosition]
    omega
  have hcur : toPosition (min start ctx.document.length) - 1 ≤ lastPosition := by
    rw [hfaithful.toPosition_eq (Nat.min_le_right start _)]
    omega
  have hasked := (Direction.backward.peer_run ctx pair (-1) 1
    (cur.moveTo (toPosition (min start ctx.document.length) - 1)) _).asked rfl hctx hfaithful
    (.inl rfl) ⟨hlimit, hcur⟩ (askedSince_gate ctx (.among pair.chars) _ cur _)
  exact exists_answer rfl hasked

/-- In every search through one gate nothing that has been told holds of an offset asked later. A
search backward can leave every partition, for each begins at a position. -/
theorem asks_fresh (q : Question) (hq : q.OneGate ctx.document.length)
    (h : q.GoesBack ∨ ctx.Leavable) : q.query.Asks ctx (Fresh ctx) := by
  cases q with
  | forward start bound char =>
    exact (asks_forwardAny hctx hfaithful (h.resolve_left id) start hq [char]).answered
      Answer.offset
  | forwardAny start bound chars =>
    exact (asks_forwardAny hctx hfaithful (h.resolve_left id) start hq chars).answered Answer.offset
  | backward start bound char =>
    exact (asks_backwardAny hctx hfaithful start bound [char]).answered Answer.offset
  | backwardAny start bound chars =>
    exact (asks_backwardAny hctx hfaithful start bound chars).answered Answer.offset
  | count start finish char =>
    exact (asks_count hctx hfaithful (h.resolve_left id) start finish char).answered Answer.number
  | closingPeer start pair =>
    exact (asks_closingPeer hctx hfaithful (h.resolve_left id) start pair).answered Answer.offset
  | openingPeer start pair =>
    exact (asks_openingPeer hctx hfaithful start pair).answered Answer.offset
  | _ => exact hq.elim

end

/-- What a scan has asked stays asked. -/
theorem Direction.Run.suffix {d : Direction} {ctx : Context} {limit : Int} {cur : Cursor}
    {cond : Condition} {out : Outcome} (h : d.Run ctx limit cur cond out) :
    cur.asked <:+ out.cursor.asked := by
  induction h with
  | @unreadable cur => exact List.suffix_refl cur.asked
  | @stopped cur _ _ v => exact List.suffix_append v.asked cur.asked
  | @passed cur _ _ v _ _ _ _ _ _ ih => exact (List.suffix_append v.asked cur.asked).trans ih
  | @exhausted cur => exact List.suffix_refl cur.asked

/-- A look that does not stop a forward scan. -/
theorem forward_pass {ctx : Context} {limit : Int} {cur : Cursor} {cond : Condition} {c : Char}
    (hlt : cur.position < limit) (hc : ctx.charAt cur.position = .ok c)
    (hpass : (cond.stop ctx cur.position c).stops = false) :
    forward ctx limit cur cond = forward ctx limit
      ((cur.read c (cond.stop ctx cur.position c).asked).moveTo
        ((cond.stop ctx cur.position c).condition.nextForward cur.position))
      (cond.stop ctx cur.position c).condition := by
  rw [forward, if_pos hlt, hc]
  simp only [hpass, Bool.false_eq_true, if_false]

/-- What the first look of a forward scan asks stays asked, too. -/
theorem suffix_forward_look {ctx : Context} {limit : Int} {cur : Cursor} (cond : Condition)
    {c : Char} (hlt : cur.position < limit) (hc : ctx.charAt cur.position = .ok c) :
    (cond.stop ctx cur.position c).asked ++ cur.asked <:+
      (forward ctx limit cur cond).cursor.asked := by
  cases hstops : (cond.stop ctx cur.position c).stops with
  | true =>
    rw [forward, if_pos hlt, hc]
    simp only [hstops, if_true]
    exact List.suffix_refl _
  | false =>
    rw [forward_pass hlt hc hstops]
    exact (Direction.run_forward ctx limit ((cur.read c _).moveTo _) _).suffix

/-- A scan that meets a rejected partition at its first offset, and cannot jump to its end, asks at
the next offset again. -/
theorem forward_asks_twice {ctx : Context} (hfaithful : ctx.Faithful) {o : Nat}
    (hnext : o + 1 < ctx.document.length) (hrejected : ctx.accepts o = false)
    (hstuck : toPosition (ctx.partition o).finish ≤ o) {cur : Cursor} (hcur : cur.position = o)
    (chars : List Char) :
    [o + 1, o] ++ cur.asked <:+
      (forward ctx ctx.document.length cur (Condition.among chars).gate).cursor.asked := by
  obtain ⟨c, hc, hread⟩ := hfaithful.charAt_natCast (Nat.lt_of_succ_lt hnext)
  obtain ⟨c', hc', hread'⟩ := hfaithful.charAt_natCast hnext
  obtain ⟨seen, hseen⟩ : ∃ seen, seen =
    some (⟨(ctx.partition o).offset, (ctx.partition o).finish, false⟩ : Seen) := ⟨_, rfl⟩
  have hlook : (Condition.among chars).gate.stop ctx o c =
      { stops := false, condition := .gated (.among chars) seen, asked := [o] } := by
    rw [Condition.gate, stop_asked rfl (hfaithful.offset_of_text hc).1 rfl, hrejected, hseen]
    rfl
  have hlook' : ((Condition.gated (.among chars) seen).stop ctx (o + 1 : Nat) c').asked =
      [o + 1] := by
    rw [stop_asked rfl (hfaithful.offset_of_text hc').1 (by rw [hseen]; rfl)]
  have hstay : (Condition.gated (.among chars) seen).nextForward o = (o + 1 : Nat) := by
    rw [hseen, Condition.nextForward, if_neg Bool.false_ne_true, if_neg (Int.not_lt.mpr hstuck)]
    rfl
  rw [forward_pass (by omega) (hcur ▸ hread) (by rw [hcur, hlook]), hcur, hlook]
  simp only [hstay]
  have hsuffix := suffix_forward_look (.gated (.among chars) seen)
    (show ((cur.read c [o]).moveTo (o + 1 : Nat)).position < ctx.document.length from
      Int.ofNat_lt.mpr hnext) hread'
  rwa [Cursor.position_moveTo, hlook'] at hsuffix

theorem forwardAny_asks_twice {ctx : Context} (hfaithful : ctx.Faithful) {o : Nat}
    (hnext : o + 1 < ctx.document.length) (hrejected : ctx.accepts o = false)
    (hstuck : toPosition (ctx.partition o).finish ≤ o) (chars : List Char) (cur : Cursor) :
    ∃ answer cur', forwardAny o .unbound chars ctx cur = .ok (answer, cur') ∧
      [o + 1, o] ++ cur.asked <:+ cur'.asked := by
  have htwice := forward_asks_twice hfaithful hnext hrejected hstuck
    (Cursor.position_moveTo cur o) chars
  rw [forwardAny, Query.offset, forwardWith_eq hfaithful rfl (Nat.le_refl _), Bound.above,
    Nat.min_eq_left (Nat.le_of_lt (Nat.lt_of_succ_lt hnext))]
  exact ⟨_, _, rfl, htwice⟩

structure Apart (m : PartitionMap) (asked : List Nat) : Prop where
  within : ∀ o ∈ asked, ∃ p ∈ m.partitions, p.Covers o
  apart : asked.Pairwise fun later earlier =>
    ∀ p ∈ m.partitions, ¬ (p.Covers later ∧ p.Covers earlier)

/-- Whether each partition of a map that the filter rejects ends at a position, or has no more than
one character of the text. -/
def LeavableMap (m : PartitionMap) (filter : Filter) : Prop :=
  ∀ p ∈ m.partitions, filter.accepts p.kind = false →
    p.finish ≤ lastPosition ∨ m.length ≤ p.offset + 1

section

variable (d : Document) (filter : Filter) (name : String) (spans : List Partition)

/-- With a map of the length of the document, the partition at an offset is the one that covers it.
-/
theorem partition_ofSpans {p : Partition}
    (hp : p ∈ (PartitionMap.ofSpans name d.length spans).partitions) {o : Nat}
    (hcovers : p.Covers o) (ho : o < d.length) :
    Context.partition ⟨d, (PartitionMap.ofSpans name d.length spans).classifier, filter⟩ o = p := by
  have hpartition : (PartitionMap.ofSpans name d.length spans).classifier.partitionAt d o = .ok p :=
    PartitionMap.partitionAt_ofSpans name d.length spans rfl hp hcovers ho
  rw [Context.partition, hpartition]

theorem exists_partition_ofSpans {o : Nat} (ho : o < d.length) :
    ∃ p ∈ (PartitionMap.ofSpans name d.length spans).partitions, p.Covers o ∧
      Context.partition ⟨d, (PartitionMap.ofSpans name d.length spans).classifier, filter⟩ o =
        p := by
  obtain ⟨front, p, back, hcut, -, hcovers, -⟩ :=
    PartitionMap.exists_partitionAt name d.length spans rfl ho
  have hp : p ∈ (PartitionMap.ofSpans name d.length spans).partitions := by simp [hcut]
  exact ⟨p, hp, hcovers, partition_ofSpans d filter name spans hp hcovers ho⟩

theorem leavable_ofSpans (h : LeavableMap (PartitionMap.ofSpans name d.length spans) filter) :
    Context.Leavable ⟨d, (PartitionMap.ofSpans name d.length spans).classifier, filter⟩ := by
  intro o ho hrejected
  obtain ⟨p, hp, -, hpartition⟩ := exists_partition_ofSpans d filter name spans ho
  rw [← Context.accepts_partition, hpartition] at hrejected
  rw [hpartition]
  exact h p hp hrejected

/-- Offsets of which nothing told at an earlier one holds of a later one lie in partitions of their
own. -/
theorem apart_ofSpans {asked : List Nat}
    (h : Fresh ⟨d, (PartitionMap.ofSpans name d.length spans).classifier, filter⟩ asked) :
    Apart (PartitionMap.ofSpans name d.length spans) asked where
  within o ho := by
    obtain ⟨p, hp, hcovers, -⟩ := exists_partition_ofSpans d filter name spans (h.within o ho)
    exact ⟨p, hp, hcovers⟩
  apart := by
    refine h.apart.imp_of_mem fun hlater hearlier hnew p hp hcovers => hnew (.inr ?_)
    rw [partition_ofSpans d filter name spans hp hcovers.2 (h.within _ hearlier)]
    exact hcovers.1

/-- Where a forward scan cannot leave a rejected partition, it asks in it twice. -/
theorem not_asks_apart (hfaithful : Context.Faithful
      ⟨d, (PartitionMap.ofSpans name d.length spans).classifier, filter⟩)
    (hspans : ∀ s ∈ spans, s.finish < offsetLimit) {p : Partition}
    (hp : p ∈ (PartitionMap.ofSpans name d.length spans).partitions)
    (hrejected : filter.accepts p.kind = false) (hfar : lastPosition < p.finish)
    (hlong : p.offset + 1 < d.length) :
    ¬ (forwardAny p.offset .unbound []).Asks
        ⟨d, (PartitionMap.ofSpans name d.length spans).classifier, filter⟩
        (Apart (PartitionMap.ofSpans name d.length spans)) := by
  intro hasks
  have hlength : d.length ≤ lastPosition := hfaithful.length_le
  have hlast : lastPosition < offsetLimit := by decide
  have hfirst : p.Covers p.offset := ⟨Nat.le_refl _, by omega⟩
  have hsecond : p.Covers (p.offset + 1) := ⟨Nat.le_succ _, by omega⟩
  have hpartition := partition_ofSpans d filter name spans hp hfirst (Nat.lt_of_succ_lt hlong)
  have hfinish : p.finish ≤ offsetLimit - 1 :=
    PartitionMap.finish_le_of_mem_ofSpans name d.length spans (Nat.le_sub_one_of_lt (by omega))
      (fun s hs => Nat.le_sub_one_of_lt (hspans s hs)) hp
  have hreject := Context.accepts_partition
    ⟨d, (PartitionMap.ofSpans name d.length spans).classifier, filter⟩ p.offset
  rw [hpartition, hrejected] at hreject
  have hwraps := toPosition_neg hfar (by omega)
  rw [← hpartition] at hwraps
  obtain ⟨answer, cur', hanswer, htwice⟩ :=
    forwardAny_asks_twice hfaithful hlong hreject.symm (by omega) [] {}
  obtain ⟨_, _, hanswer', asked, hasked, hapart⟩ := hasks {}
  obtain ⟨-, rfl⟩ := Prod.mk.inj (Except.ok.inj (hanswer.symm.trans hanswer'))
  rw [hasked, List.append_nil, List.append_nil] at htwice
  have hpair := hapart.apart.sublist htwice.sublist
  exact List.rel_of_pairwise_cons hpair List.mem_cons_self p hp ⟨hsecond, hfirst⟩

end

/-- With a classifier that fails at every offset a search asks at no offset twice. -/
theorem asks_nodup {ctx : Context} (hfaithful : ctx.Faithful)
    (hfails : ∀ o, ∃ fault, ctx.classifier.partitionAt ctx.document o = .error fault) (q : Question)
    (hq : q.OneGate ctx.document.length) : q.query.Asks ctx List.Nodup := by
  have hctx : ctx.Coherent := by
    intro o p _ hp
    obtain ⟨fault, hfault⟩ := hfails o
    exact nomatch hfault.symm.trans hp
  have hleaves : ctx.Leavable := by
    intro o ho _
    obtain ⟨fault, hfault⟩ := hfails o
    rw [Context.partition, hfault]
    exact .inl (Nat.le_of_lt (Nat.lt_of_lt_of_le ho hfaithful.length_le))
  exact (asks_fresh hctx hfaithful q hq (.inr hleaves)).imp fun asked hfresh =>
    hfresh.apart.imp fun hnew heq => hnew (.inl heq)

/-- With a map, every search through one gate asks in no partition twice, exactly if no rejected
partition that has two characters of the text ends behind the last position; a search backward never
does. With a map of another length, or any classifier that always fails, no offset is asked about
twice. -/
theorem asks_in_each_partition_once (b : Buffer) (hb : b.length ≤ lastPosition) (filter : Filter) :
    (∀ name spans, (∀ s ∈ spans, s.finish < offsetLimit) →
      let m := PartitionMap.ofSpans name b.length spans
      let ctx : Context := ⟨b.document, m.classifier, filter⟩
      (∀ q : Question, q.OneGate b.length → q.GoesBack → q.query.Asks ctx (Apart m)) ∧
      ((∀ q : Question, q.OneGate b.length → q.query.Asks ctx (Apart m)) ↔ LeavableMap m filter)) ∧
    (∀ name length spans, length ≠ b.length → ∀ q : Question, q.OneGate b.length →
      q.query.Asks ⟨b.document, (PartitionMap.ofSpans name length spans).classifier, filter⟩
        List.Nodup) ∧
    ∀ classifier : Classifier, (∀ o, ∃ fault, classifier.partitionAt b.document o = .error fault) →
      ∀ q : Question, q.OneGate b.length →
        q.query.Asks ⟨b.document, classifier, filter⟩ List.Nodup := by
  have hfaithful (c : Classifier) : Context.Faithful ⟨b.document, c, filter⟩ :=
    Context.faithful_document hb c filter
  refine ⟨fun name spans hspans => ?_, fun name length spans hstale q hq => ?_,
    fun classifier hfails q hq => asks_nodup (hfaithful classifier) hfails q hq⟩
  · intro m ctx
    have hctx : ctx.Coherent := Classifier.coherent_map name b.length spans b.document
    have hapart (q : Question) (hq : q.OneGate b.length) (h : q.GoesBack ∨ ctx.Leavable) :
        q.query.Asks ctx (Apart m) :=
      (asks_fresh hctx (hfaithful m.classifier) q hq h).imp fun asked hfresh =>
        apart_ofSpans b.document filter name spans hfresh
    refine ⟨fun q hq hback => hapart q hq (.inl hback), fun hasks p hp hrejected => ?_,
      fun hleaves q hq =>
        hapart q hq (.inr (leavable_ofSpans b.document filter name spans hleaves))⟩
    by_contra hstuck
    rw [not_or, Nat.not_le, Nat.not_le] at hstuck
    refine not_asks_apart b.document filter name spans (hfaithful m.classifier) hspans hp hrejected
      hstuck.1 hstuck.2 ?_
    exact (hasks (.forwardAny p.offset .unbound []) (Nat.le_refl b.length)).of_answered
  · have hfails (o : Nat) :
        (PartitionMap.ofSpans name length spans).classifier.partitionAt b.document o =
          .error (.staleMap length b.length) :=
      PartitionMap.partitionAt_stale (Ne.symm hstale) o
    exact asks_nodup (hfaithful _) (fun o => ⟨_, hfails o⟩) q hq

/-- The closing parenthesis in the quotes is not asked about, and the quotes are left at once
although they end behind the text. -/
theorem asks_in_each_partition_once_quoted :
    let b := Buffer.scratch ['(', '"', ')', ')']
    let spans : List Partition := [⟨"string", 1, 2⟩, ⟨"comment", 3, 5⟩]
    let m := PartitionMap.ofSpans "quotes" b.length spans
    let ctx : Context := ⟨b.document, m.classifier, .defaultOnly⟩
    b.length ≤ lastPosition ∧ (∀ s ∈ spans, s.finish < offsetLimit) ∧
      (Question.closingPeer 0 .parentheses).OneGate b.length ∧ LeavableMap m .defaultOnly ∧
      (Question.closingPeer 0 .parentheses).query.Asks ctx (Apart m) ∧
      (5 ≠ b.length ∧ (Question.closingPeer 0 .parentheses).query.Asks
        ⟨b.document, (PartitionMap.ofSpans "stale" 5 spans).classifier, .any⟩ List.Nodup) ∧
      (∀ o, ∃ fault, Classifier.failing.partitionAt b.document o = .error fault) ∧
      (Question.count 0 4 ')').query.Asks ⟨b.document, .failing, .any⟩ List.Nodup := by
  intro b spans m ctx
  have hb : b.length ≤ lastPosition := by decide
  have hspans : ∀ s ∈ spans, s.finish < offsetLimit := by decide
  have hleaves : LeavableMap m .defaultOnly := by
    unfold LeavableMap
    decide
  have hfails : ∀ o, ∃ fault, Classifier.failing.partitionAt b.document o = .error fault :=
    fun _ => ⟨_, rfl⟩
  obtain ⟨hmap, -, -⟩ := asks_in_each_partition_once b hb .defaultOnly
  obtain ⟨-, hstale, hfailing⟩ := asks_in_each_partition_once b hb .any
  exact ⟨hb, hspans, trivial, hleaves, (hmap "quotes" spans hspans).2.mpr hleaves _ trivial,
    ⟨by decide, hstale "stale" 5 spans (by decide) _ trivial⟩, hfails,
    hfailing .failing hfails _ trivial⟩

/-- A rejected partition that ends behind the last position is asked about at one offset after the
other. -/
theorem asks_again_in_partition_without_end :
    let b := Buffer.scratch ['a', 'a', 'a']
    let m := PartitionMap.ofSpans "overhang" b.length [⟨"string", 0, lastPosition + 1⟩]
    let ctx : Context := ⟨b.document, m.classifier, .defaultOnly⟩
    m.length = b.document.length ∧ (∃ p ∈ m.partitions, p.Covers 0 ∧ p.Covers 1) ∧
      ∃ answer cur, forwardAny 0 .unbound ['x'] ctx {} = .ok (answer, cur) ∧
        [1, 0] <:+ cur.asked := by
  intro b m ctx
  have hfaithful : ctx.Faithful := Context.faithful_document (by decide) m.classifier .defaultOnly
  refine ⟨rfl, by decide, ?_⟩
  exact forwardAny_asks_twice hfaithful (by decide) (by decide) (by decide) ['x'] {}

end PartitionScan.Scan
