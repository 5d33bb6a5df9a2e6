import Mathlib.Order.Bounds.Basic
import PartitionScan.Proofs.LineIndex
import PartitionScan.Scan.Query

/-!
# What scans find

A condition is said to track some live offsets if it stops at them and nowhere else, and jumps over
none of them. A forward scan with such a condition stops at the least live offset of its range, a
backward scan at the greatest, and a scan that stops nowhere leaves the cursor at its limit.
-/
namespace PartitionScan

/-- The characters of a document, if all of them can be read. -/
def Document.text (d : Document) : List Char :=
  ((List.range d.length).mapM d.charAt).toOption.getD []

@[simp] theorem Buffer.text_document (b : Buffer) : b.document.text = b.text := by
  have hread : (List.range' 0 b.length).mapM b.charAt = .ok b.text := by
    rw [Buffer.mapM_charAt (by omega), List.drop_zero, List.take_of_length_le (by simp)]
  rw [Document.text, List.range_eq_range', length_document]
  exact congrArg (·.toOption.getD []) hread

namespace Scan

/-- The least of some offsets, or nothing if there are none. -/
def Least (s : Set Nat) : Option Nat → Prop
  | some o => IsLeast s o
  | none => s = ∅

def Greatest (s : Set Nat) : Option Nat → Prop
  | some o => IsGreatest s o
  | none => s = ∅

theorem least_some {s : Set Nat} {o : Nat} (h : o ∈ s) (hle : ∀ p ∈ s, o ≤ p) :
    Least s (some o) := ⟨h, fun _ hp => hle _ hp⟩

theorem least_none {s : Set Nat} (h : ∀ p, p ∉ s) : Least s none := by
  ext p
  exact ⟨fun hp => h p hp, fun hp => hp.elim⟩

theorem Least.not_mem {s : Set Nat} (h : Least s none) (p : Nat) : p ∉ s := by
  have hempty : s = ∅ := h
  rw [hempty]
  exact fun hp => hp

theorem Least.unique {s : Set Nat} : {r r' : Option Nat} → Least s r → Least s r' → r = r'
  | none, none, _, _ => rfl
  | none, some p, h, h' => absurd h'.1 (h.not_mem p)
  | some o, none, h, h' => absurd h.1 (h'.not_mem o)
  | some _, some _, h, h' => congrArg some (IsLeast.unique h h')

theorem greatest_some {s : Set Nat} {o : Nat} (h : o ∈ s) (hle : ∀ p ∈ s, p ≤ o) :
    Greatest s (some o) := ⟨h, fun _ hp => hle _ hp⟩

theorem greatest_none {s : Set Nat} (h : ∀ p, p ∉ s) : Greatest s none := by
  ext p
  exact ⟨fun hp => h p hp, fun hp => hp.elim⟩

theorem Greatest.not_mem {s : Set Nat} (h : Greatest s none) (p : Nat) : p ∉ s := by
  have hempty : s = ∅ := h
  rw [hempty]
  exact fun hp => hp

theorem Greatest.unique {s : Set Nat} : {r r' : Option Nat} → Greatest s r → Greatest s r' → r = r'
  | none, none, _, _ => rfl
  | none, some p, h, h' => absurd h'.1 (h.not_mem p)
  | some o, none, h, h' => absurd h.1 (h'.not_mem o)
  | some _, some _, h, h' => congrArg some (IsGreatest.unique h h')

namespace Context

def text (ctx : Context) : List Char := ctx.document.text

/-- A context whose document can be read up to its stated length and no further, with positions for
all offsets. Every text that fits into memory is short enough for that, since a character takes four
bytes. -/
structure Faithful (ctx : Context) : Prop where
  reads : ∀ o c, ctx.document.charAt o = .ok c ↔ ctx.text[o]? = some c
  length_eq : ctx.document.length = ctx.text.length
  length_le : ctx.document.length ≤ lastPosition
  isEmpty_eq : ctx.document.isEmpty = (ctx.document.length == 0)

@[simp] theorem text_document (b : Buffer) (c : Classifier) (f : Filter) :
    text ⟨b.document, c, f⟩ = b.text :=
  Buffer.text_document b

theorem faithful_document {b : Buffer} (h : b.length ≤ lastPosition) (c : Classifier) (f : Filter) :
    Faithful ⟨b.document, c, f⟩ where
  reads o d := by
    rw [text_document]
    exact Buffer.charAt_ok_iff
  length_eq := by simp
  length_le := h
  isEmpty_eq := rfl

namespace Faithful

variable {ctx : Context} (h : ctx.Faithful)
include h

theorem charAt_eq_ok_iff (position : Int) (c : Char) :
    ctx.charAt position = .ok c ↔ ctx.text[toOffset position]? = some c :=
  h.reads (toOffset position) c

theorem toOffset_natCast {o : Nat} (ho : o ≤ ctx.document.length) : toOffset o = o := by
  have := h.length_le
  apply PartitionScan.toOffset_natCast
  simp only [lastPosition, offsetLimit] at *
  omega

theorem toPosition_eq {o : Nat} (ho : o ≤ ctx.document.length) : toPosition o = o :=
  toPosition_of_le (Nat.le_trans ho h.length_le)

theorem lt_length_of_charAt {position : Int} {c : Char} (hc : ctx.charAt position = .ok c) :
    toOffset position < ctx.document.length := by
  obtain ⟨hlt, -⟩ := List.getElem?_eq_some_iff.mp ((h.charAt_eq_ok_iff position c).mp hc)
  rw [h.length_eq]
  exact hlt

/-- Only the offsets of the text are positions that can be read. -/
theorem offset_of_charAt {position : Int} {c : Char} (hlow : -lastPosition ≤ position)
    (hhigh : position ≤ lastPosition) (hc : ctx.charAt position = .ok c) :
    ∃ o : Nat, position = o ∧ toOffset o = o ∧ o < ctx.document.length := by
  have hlt := h.lt_length_of_charAt hc
  have hlength := h.length_le
  have hnonneg : 0 ≤ position := by
    refine Int.not_lt.mp fun hneg => ?_
    simp only [toOffset, lastPosition, offsetLimit] at *
    omega
  obtain ⟨o, rfl⟩ := Int.eq_ofNat_of_zero_le hnonneg
  have ho : toOffset o = o := by
    apply PartitionScan.toOffset_natCast
    simp only [lastPosition, offsetLimit] at *
    omega
  exact ⟨o, rfl, ho, ho ▸ hlt⟩

theorem text_of_charAt {o : Nat} (ho : o < ctx.document.length) {c : Char}
    (hc : ctx.charAt o = .ok c) : ctx.text[o]? = some c := by
  rw [h.charAt_eq_ok_iff, h.toOffset_natCast (Nat.le_of_lt ho)] at hc
  exact hc

theorem offset_of_text {o : Nat} {c : Char} (hc : ctx.text[o]? = some c) :
    toOffset o = o ∧ toOffset o < ctx.document.length := by
  obtain ⟨hlt, -⟩ := List.getElem?_eq_some_iff.mp hc
  rw [← h.length_eq] at hlt
  have hoffset := h.toOffset_natCast (Nat.le_of_lt hlt)
  exact ⟨hoffset, by rwa [hoffset]⟩

/-- Every offset of the text can be read. -/
theorem charAt_natCast {o : Nat} (ho : o < ctx.document.length) :
    ∃ c, ctx.text[o]? = some c ∧ ctx.charAt o = .ok c := by
  have hlt : o < ctx.text.length := h.length_eq ▸ ho
  refine ⟨ctx.text[o], List.getElem?_eq_getElem hlt, ?_⟩
  rw [h.charAt_eq_ok_iff, h.toOffset_natCast (Nat.le_of_lt ho), List.getElem?_eq_getElem hlt]

/-- A scan that stopped at an offset of the text has found that offset. -/
theorem found?_eq {out : Outcome} {o : Nat} (hstopped : out.stopped = true)
    (hposition : out.cursor.position = o) (ho : o ≤ ctx.document.length) :
    out.found? = some o := by
  rw [Outcome.found?, if_pos hstopped, hposition, h.toOffset_natCast ho]

end Faithful

end Context

theorem Outcome.found?_eq_none {out : Outcome} (h : out.stopped = false) : out.found? = none := by
  rw [found?, h]
  rfl

theorem Outcome.toOffset_of_found? {out : Outcome} {o : Nat} (h : out.found? = some o) :
    toOffset out.cursor.position = o := by
  rw [found?] at h
  split at h
  · exact Option.some.inj h
  · cases h

/-- Conditions that stop going forward at the live offsets. `inv` holds of a condition that is about
to look at an offset. -/
structure Tracks (ctx : Context) (live : Nat → Bool) (inv : Nat → Condition → Prop) : Prop where
  stops : ∀ {o : Nat} {c : Char} {cond : Condition}, inv o cond → ctx.text[o]? = some c →
    (cond.stop ctx o c).stops = live o
  keeps : ∀ {o : Nat} {c : Char} {cond : Condition}, inv o cond → ctx.text[o]? = some c →
    ∀ m : Nat, o < m → (m : Int) ≤ (cond.stop ctx o c).condition.nextForward o →
      inv m (cond.stop ctx o c).condition
  skips : ∀ {o : Nat} {c : Char} {cond : Condition}, inv o cond → ctx.text[o]? = some c →
    ∀ m : Nat, o < m → (m : Int) < (cond.stop ctx o c).condition.nextForward o → live m = false

structure Retraces (ctx : Context) (live : Nat → Bool) (inv : Condition → Prop) : Prop where
  stops : ∀ {o : Nat} {c : Char} {cond : Condition}, inv cond → ctx.text[o]? = some c →
    (cond.stop ctx o c).stops = live o
  keeps : ∀ {o : Nat} {c : Char} {cond : Condition}, inv cond → ctx.text[o]? = some c →
    inv (cond.stop ctx o c).condition
  skips : ∀ {o : Nat} {c : Char} {cond : Condition}, inv cond → ctx.text[o]? = some c →
    ∀ m : Nat, m < o → (cond.stop ctx o c).condition.nextBackward o < m → live m = false

/-- How a forward scan from `start` up to `limit` ends. -/
inductive EndsForward (ctx : Context) (live : Nat → Bool) (inv : Nat → Condition → Prop)
    (start limit : Nat) (out : Outcome) : Prop
  | found (o : Nat) (hstopped : out.stopped = true) (hposition : out.cursor.position = o)
      (hchar : ctx.text[o]? = some out.cursor.char) (hstart : start ≤ o) (hlimit : o < limit)
      (hlive : live o = true) (hfirst : ∀ p, start ≤ p → p < o → live p = false)
      (hinv : inv (o + 1) out.condition)
  | exhausted (hstopped : out.stopped = false) (hposition : out.cursor.position = limit)
      (hnone : ∀ p, start ≤ p → p < limit → live p = false) (hinv : inv limit out.condition)

inductive EndsBackward (ctx : Context) (live : Nat → Bool) (inv : Condition → Prop)
    (start limit : Int) (out : Outcome) : Prop
  | found (o : Nat) (hstopped : out.stopped = true) (hposition : out.cursor.position = o)
      (hchar : ctx.text[o]? = some out.cursor.char) (hstart : o ≤ start) (hlimit : limit < o)
      (hlive : live o = true) (hlast : ∀ p : Nat, o < p → p ≤ start → live p = false)
      (hinv : inv out.condition)
  | exhausted (hstopped : out.stopped = false) (hposition : out.cursor.position = limit)
      (hnone : ∀ p : Nat, limit < p → p ≤ start → live p = false) (hinv : inv out.condition)

section

variable {ctx : Context} {live : Nat → Bool}

/-- Where a look going forward does not stop, no offset before the next look is live. -/
theorem Tracks.dead {inv : Nat → Condition → Prop} (h : Tracks ctx live inv) {o : Nat} {c : Char}
    {cond : Condition} (hinv : inv o cond) (htext : ctx.text[o]? = some c)
    (hpasses : (cond.stop ctx o c).stops = false) (p : Nat) (hle : o ≤ p)
    (hnext : (p : Int) < (cond.stop ctx o c).condition.nextForward o) : live p = false := by
  rcases Nat.eq_or_lt_of_le hle with rfl | hlt
  · rw [← h.stops hinv htext, hpasses]
  · exact h.skips hinv htext p hlt hnext

/-- Where a look going backward does not stop, no offset behind the next look is live. -/
theorem Retraces.dead {inv : Condition → Prop} (h : Retraces ctx live inv) {o : Nat} {c : Char}
    {cond : Condition} (hinv : inv cond) (htext : ctx.text[o]? = some c)
    (hpasses : (cond.stop ctx o c).stops = false) (p : Nat) (hle : p ≤ o)
    (hnext : (cond.stop ctx o c).condition.nextBackward o < p) : live p = false := by
  rcases Nat.eq_or_lt_of_le hle with rfl | hlt
  · rw [← h.stops hinv htext, hpasses]
  · exact h.skips hinv htext p hlt hnext

theorem EndsForward.extend {inv : Nat → Condition → Prop} {start next limit : Nat} {out : Outcome}
    (h : EndsForward ctx live inv next limit out) (hle : start ≤ next)
    (hnone : ∀ p, start ≤ p → p < next → live p = false) :
    EndsForward ctx live inv start limit out := by
  cases h with
  | found o hstopped hposition hchar hstart hlimit hlive hfirst hinv =>
    refine .found o hstopped hposition hchar (Nat.le_trans hle hstart) hlimit hlive ?_ hinv
    intro p hp hp'
    by_cases hnext : p < next
    · exact hnone p hp hnext
    · exact hfirst p (by omega) hp'
  | exhausted hstopped hposition hrest hinv =>
    refine .exhausted hstopped hposition ?_ hinv
    intro p hp hp'
    by_cases hnext : p < next
    · exact hnone p hp hnext
    · exact hrest p (by omega) hp'

/-- A forward scan finds the first live offset of its range. A jump may pass the limit, so that the
invariant is kept for the lower of the two. -/
theorem forward_ends {inv : Nat → Condition → Prop} (h : Tracks ctx live inv) (hctx : ctx.Faithful)
    {limit : Nat} (hlimit : limit ≤ ctx.document.length) (cur : Cursor) (cond : Condition) :
    ∀ start : Nat, cur.position = start → inv (min start limit) cond →
      EndsForward ctx live inv start limit (forward ctx limit cur cond) := by
  fun_induction forward ctx limit cur cond with
  | case1 cur cond hlt e he =>
    intro start hcur hinv
    obtain ⟨c, -, hc⟩ := hctx.charAt_natCast (show start < ctx.document.length by omega)
    rw [hcur, hc] at he
    cases he
  | case2 cur cond hlt c hc v cur' hv =>
    intro start hcur hinv
    have ho : start < limit := by omega
    rw [Nat.min_eq_left (Nat.le_of_lt ho)] at hinv
    have htext : ctx.text[start]? = some c := hctx.text_of_charAt (by omega) (hcur ▸ hc)
    have hstop : v = cond.stop ctx start c := by rw [← hcur]
    refine .found start rfl hcur htext (Nat.le_refl start) ho ?_ ?_ ?_
    · rw [← h.stops hinv htext, ← hstop]
      exact hv
    · intro p hp hp'
      omega
    · have hnext := (cond.stop ctx start c).condition.lt_nextForward start
      rw [hstop]
      exact h.keeps hinv htext (start + 1) (Nat.lt_succ_self start) (by omega)
  | case3 cur cond hlt c hc v cur' hv ih =>
    intro start hcur hinv
    have ho : start < limit := by omega
    rw [Nat.min_eq_left (Nat.le_of_lt ho)] at hinv
    have htext : ctx.text[start]? = some c := hctx.text_of_charAt (by omega) (hcur ▸ hc)
    have hstop : v = cond.stop ctx start c := by rw [← hcur]
    have hlt' := v.condition.lt_nextForward start
    obtain ⟨next, hnext⟩ := Int.eq_ofNat_of_zero_le
      (show 0 ≤ v.condition.nextForward start by omega)
    rw [hstop] at hv hlt' hnext
    have hrest := ih next (by rw [hcur, Cursor.position_moveTo, hstop, hnext])
      (by rw [hstop]; exact h.keeps hinv htext _ (by omega) (by omega))
    refine hrest.extend (by omega) fun p hp hp' => ?_
    exact h.dead hinv htext (Bool.eq_false_iff.mpr hv) p hp (by omega)
  | case4 cur cond hge =>
    intro start hcur hinv
    rw [Nat.min_eq_right (by omega)] at hinv
    exact .exhausted rfl rfl (fun p hp hp' => by omega) hinv

theorem EndsBackward.extend {inv : Condition → Prop} {start next limit : Int} {out : Outcome}
    (h : EndsBackward ctx live inv next limit out) (hle : next ≤ start)
    (hnone : ∀ p : Nat, p ≤ start → next < p → live p = false) :
    EndsBackward ctx live inv start limit out := by
  cases h with
  | found o hstopped hposition hchar hstart hlimit hlive hlast hinv =>
    refine .found o hstopped hposition hchar (Int.le_trans hstart hle) hlimit hlive ?_ hinv
    intro p hp hp'
    by_cases hnext : next < p
    · exact hnone p hp' hnext
    · exact hlast p hp (by omega)
  | exhausted hstopped hposition hrest hinv =>
    refine .exhausted hstopped hposition ?_ hinv
    intro p hp hp'
    by_cases hnext : next < p
    · exact hnone p hp' hnext
    · exact hrest p hp (by omega)

/-- A backward scan finds the last live offset of its range. -/
theorem backward_ends {inv : Condition → Prop} (h : Retraces ctx live inv) (hctx : ctx.Faithful)
    {limit : Int} (hlimit : -1 ≤ limit) (cur : Cursor) (cond : Condition)
    (hlength : cur.position < ctx.document.length) (hinv : inv cond) :
    EndsBackward ctx live inv cur.position limit (backward ctx limit cur cond) := by
  fun_induction backward ctx limit cur cond with
  | case1 cur cond hlt e he =>
    obtain ⟨start, hcur⟩ := Int.eq_ofNat_of_zero_le (show 0 ≤ cur.position by omega)
    obtain ⟨c, -, hc⟩ := hctx.charAt_natCast (show start < ctx.document.length by omega)
    rw [hcur, hc] at he
    cases he
  | case2 cur cond hlt c hc v cur' hv =>
    obtain ⟨start, hcur⟩ := Int.eq_ofNat_of_zero_le (show 0 ≤ cur.position by omega)
    have htext : ctx.text[start]? = some c := hctx.text_of_charAt (by omega) (hcur ▸ hc)
    have hstop : v = cond.stop ctx start c := by rw [← hcur]
    refine .found start rfl hcur htext (by omega) (by omega) ?_ ?_ ?_
    · rw [← h.stops hinv htext, ← hstop]
      exact hv
    · intro p hp hp'
      omega
    · rw [hstop]
      exact h.keeps hinv htext
  | case3 cur cond hlt c hc v cur' hv ih =>
    obtain ⟨start, hcur⟩ := Int.eq_ofNat_of_zero_le (show 0 ≤ cur.position by omega)
    have htext : ctx.text[start]? = some c := hctx.text_of_charAt (by omega) (hcur ▸ hc)
    have hstop : v = cond.stop ctx start c := by rw [← hcur]
    have hlt' := v.condition.nextBackward_lt cur.position
    have hrest := ih (by rw [Cursor.position_moveTo]; omega)
      (by rw [hstop]; exact h.keeps hinv htext)
    rw [Cursor.position_moveTo] at hrest
    rw [hstop] at hv
    refine hrest.extend (by omega) fun p hp hp' => ?_
    rw [hstop, hcur] at hp'
    exact h.dead hinv htext (Bool.eq_false_iff.mpr hv) p (by omega) hp'
  | case4 cur cond hge => exact .exhausted rfl rfl (fun p hp hp' => by omega) hinv

/-- What a forward scan found is the least live offset, and the cursor is there or at the limit. -/
theorem EndsForward.least {inv : Nat → Condition → Prop} {start limit : Nat} {out : Outcome}
    (h : EndsForward ctx live inv start limit out) (hctx : ctx.Faithful)
    (hlimit : limit ≤ ctx.document.length) :
    Least {o | start ≤ o ∧ o < limit ∧ live o = true} out.found? ∧
      out.cursor.position = out.found?.elim (limit : Int) (fun o => (o : Int)) := by
  cases h with
  | found o hstopped hposition hchar hstart hlt hlive hnone hinv =>
    rw [hctx.found?_eq hstopped hposition (by omega)]
    refine ⟨least_some ⟨hstart, hlt, hlive⟩ ?_, hposition⟩
    rintro p ⟨hp, -, hlive'⟩
    apply Nat.le_of_not_lt
    intro hlt'
    rw [hnone p hp hlt'] at hlive'
    cases hlive'
  | exhausted hstopped hposition hnone hinv =>
    rw [Outcome.found?_eq_none hstopped]
    refine ⟨least_none ?_, hposition⟩
    rintro p ⟨hp, hp', hlive'⟩
    rw [hnone p hp hp'] at hlive'
    cases hlive'

/-- What a backward scan found is the greatest live offset, and the cursor is there or at the limit.
-/
theorem EndsBackward.greatest {inv : Condition → Prop} {start limit : Int} {out : Outcome}
    (h : EndsBackward ctx live inv start limit out) (hctx : ctx.Faithful)
    (hstart : start < ctx.document.length) :
    Greatest {o | limit < o ∧ (o : Int) ≤ start ∧ live o = true} out.found? ∧
      out.cursor.position = out.found?.elim limit (fun o => (o : Int)) := by
  cases h with
  | found o hstopped hposition hchar hle hlt hlive hnone hinv =>
    rw [hctx.found?_eq hstopped hposition (by omega)]
    refine ⟨greatest_some ⟨hlt, hle, hlive⟩ ?_, hposition⟩
    rintro p ⟨-, hp, hlive'⟩
    apply Nat.le_of_not_lt
    intro hlt'
    rw [hnone p hlt' hp] at hlive'
    cases hlive'
  | exhausted hstopped hposition hnone hinv =>
    rw [Outcome.found?_eq_none hstopped]
    refine ⟨greatest_none ?_, hposition⟩
    rintro p ⟨hp, hp', hlive'⟩
    rw [hnone p hp hp'] at hlive'
    cases hlive'

/-- A forward scan to a limit within the stated length, if that length is a position. -/
theorem forwardWith_within {start limit : Nat} {bound : Bound}
    (hbound : bound.above ctx.document.length = limit) (hlimit : limit ≤ ctx.document.length)
    (hlength : ctx.document.length ≤ lastPosition) (cond : Condition) (cur : Cursor) :
    forwardWith start bound cond ctx cur =
      let out := forward ctx limit (cur.moveTo (min start limit : Nat)) cond
      .ok ((out.found?, out.condition), out.cursor) := by
  have hfirst : toPosition (min start limit) = (min start limit : Nat) :=
    toPosition_of_le (by omega)
  rw [forwardWith, Context.limit]
  simp only [hbound, if_pos hlimit, toPosition_of_le (Nat.le_trans hlimit hlength), hfirst]
  rfl

theorem forwardWith_eq (hctx : ctx.Faithful) {start limit : Nat} {bound : Bound}
    (hbound : bound.above ctx.document.length = limit) (hlimit : limit ≤ ctx.document.length)
    (cond : Condition) (cur : Cursor) :
    forwardWith start bound cond ctx cur =
      let out := forward ctx limit (cur.moveTo (min start limit : Nat)) cond
      .ok ((out.found?, out.condition), out.cursor) :=
  forwardWith_within hbound hlimit hctx.length_le cond cur

theorem backwardWith_eq (hctx : ctx.Faithful) {start : Nat} (hstart : start < ctx.document.length)
    (bound : Bound) (cond : Condition) (cur : Cursor) :
    backwardWith start bound cond ctx cur =
      let out := backward ctx bound.below (cur.moveTo start) cond
      .ok ((out.found?, out.condition), out.cursor) := by
  have hlength := hctx.length_le
  have hempty : ctx.document.isEmpty = false := by
    rw [hctx.isEmpty_eq, beq_eq_false_iff_ne]
    omega
  rw [backwardWith, Nat.min_eq_left (by omega)]
  simp only [backwardFrom, hempty]
  rfl

end

end Scan

end PartitionScan
