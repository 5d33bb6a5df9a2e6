import PartitionScan.Proofs.Gating
import PartitionScan.Scan.Peer

/-!
# Peers by counting

The search for a peer walks the live offsets in the order in which it meets them and counts depth.
It ends at the first of them up to which the characters that close outnumber those that nest,
whether the offsets come from one scan after the other or from lines read ahead.
-/
namespace PartitionScan

theorem CharPair.opening_ne_closing {pair : CharPair} (h : pair.isSymmetric = false) :
    pair.opening ≠ pair.closing := by
  simpa [isSymmetric] using h

namespace Scan

def liveBetween (live : Nat → Bool) (low high : Nat) : List Nat :=
  (List.range' low (high - low)).filter live

section

variable {live : Nat → Bool} {low middle high o : Nat}

@[simp] theorem mem_liveBetween :
    o ∈ liveBetween live low high ↔ low ≤ o ∧ o < high ∧ live o = true := by
  rw [liveBetween, List.mem_filter, List.mem_range'_1]
  constructor
  · rintro ⟨⟨hlow, hhigh⟩, hlive⟩
    exact ⟨hlow, by omega, hlive⟩
  · rintro ⟨hlow, hhigh, hlive⟩
    exact ⟨⟨hlow, by omega⟩, hlive⟩

theorem liveBetween_append (h : low ≤ middle) (h' : middle ≤ high) :
    liveBetween live low high = liveBetween live low middle ++ liveBetween live middle high := by
  have hrange : List.range' low (high - low) =
      List.range' low (middle - low) ++ List.range' middle (high - middle) := by
    have hmiddle : middle = low + (middle - low) := by omega
    have hlength : high - low = (middle - low) + (high - middle) := by omega
    rw [hlength, ← List.range'_append_1, ← hmiddle]
  rw [liveBetween, hrange, List.filter_append, liveBetween, liveBetween]

theorem liveBetween_front (h : low ≤ middle) (h' : middle ≤ high) :
    liveBetween live low middle <+: liveBetween live low high :=
  ⟨_, (liveBetween_append h h').symm⟩

theorem liveBetween_back (h : low ≤ middle) (h' : middle ≤ high) :
    liveBetween live middle high <:+ liveBetween live low high :=
  ⟨_, (liveBetween_append h h').symm⟩

theorem liveBetween_eq_nil (h : ∀ p, low ≤ p → p < high → live p = false) :
    liveBetween live low high = [] := by
  apply List.eq_nil_iff_forall_not_mem.mpr
  intro p hp
  obtain ⟨hlow, hhigh, hlive⟩ := mem_liveBetween.mp hp
  rw [h p hlow hhigh] at hlive
  cases hlive

theorem liveBetween_single (h : live o = true) : liveBetween live o (o + 1) = [o] := by
  simp [liveBetween, h]

theorem liveBetween_succ (h : live o = true) (hlow : low ≤ o) :
    liveBetween live low (o + 1) = liveBetween live low o ++ [o] := by
  rw [liveBetween_append hlow (Nat.le_succ o), liveBetween_single h]

theorem liveBetween_cons (h : live o = true) (hhigh : o < high) :
    liveBetween live o high = o :: liveBetween live (o + 1) high := by
  rw [liveBetween_append (Nat.le_succ o) hhigh, liveBetween_single h, List.singleton_append]

/-- The live offsets behind the first. -/
theorem liveBetween_first (h : live o = true) (hlow : low ≤ o) (hhigh : o < high)
    (hfirst : ∀ p, low ≤ p → p < o → live p = false) :
    liveBetween live low high = o :: liveBetween live (o + 1) high := by
  rw [liveBetween_append hlow (Nat.le_of_lt hhigh), liveBetween_eq_nil hfirst, List.nil_append,
    liveBetween_cons h hhigh]

/-- The live offsets before the last. -/
theorem liveBetween_last (h : live o = true) (hlow : low ≤ o) (hhigh : o < high)
    (hlast : ∀ p, o < p → p < high → live p = false) :
    liveBetween live low high = liveBetween live low o ++ [o] := by
  have hnil : liveBetween live (o + 1) high = [] := liveBetween_eq_nil hlast
  rw [liveBetween_append (Nat.le_succ_of_le hlow) hhigh, hnil, List.append_nil,
    liveBetween_succ h hlow]

/-- Live offsets are cut at one of them in one way only. -/
theorem liveBetween_cut {front back : List Nat}
    (h : liveBetween live low high = front ++ o :: back) :
    front = liveBetween live low o ∧ back = liveBetween live (o + 1) high ∧
      low ≤ o ∧ o < high ∧ live o = true := by
  have hmem : o ∈ liveBetween live low high := by
    rw [h]
    exact List.mem_append_right front List.mem_cons_self
  obtain ⟨hlow, hhigh, hlive⟩ := mem_liveBetween.mp hmem
  rw [liveBetween_append hlow (Nat.le_of_lt hhigh), liveBetween_cons hlive hhigh] at h
  rcases List.append_eq_append_iff.mp h with ⟨between, hfront, hback⟩ | ⟨between, hfront, hback⟩
  · cases between with
    | nil =>
      rw [List.append_nil] at hfront
      exact ⟨hfront, (List.cons.inj hback).2.symm, hlow, hhigh, hlive⟩
    | cons p between =>
      have hp : o ∈ liveBetween live (o + 1) high := by
        rw [(List.cons.inj hback).2]
        exact List.mem_append_right between List.mem_cons_self
      have := (mem_liveBetween.mp hp).1
      omega
  · cases between with
    | nil =>
      rw [List.append_nil] at hfront
      exact ⟨hfront.symm, (List.cons.inj hback).2, hlow, hhigh, hlive⟩
    | cons p between =>
      have hp : o ∈ liveBetween live low o := by
        rw [hfront, (List.cons.inj hback).1]
        exact List.mem_append_right front List.mem_cons_self
      have := (mem_liveBetween.mp hp).2.1
      omega

theorem least_head (live : Nat → Bool) (low high : Nat) :
    Least {o | low ≤ o ∧ o < high ∧ live o = true} (liveBetween live low high).head? := by
  cases h : liveBetween live low high with
  | nil =>
    apply least_none
    intro p hp
    have hmem := mem_liveBetween.mpr hp
    rw [h] at hmem
    cases hmem
  | cons o rest =>
    obtain ⟨hfront, -, ho⟩ := liveBetween_cut (h.trans (List.nil_append (o :: rest)).symm)
    refine least_some ho fun p hp => Nat.le_of_not_lt fun hlt => ?_
    have hmem := mem_liveBetween.mpr ⟨hp.1, hlt, hp.2.2⟩
    rw [← hfront] at hmem
    cases hmem

theorem greatest_last (live : Nat → Bool) (low high : Nat) :
    Greatest {o | low ≤ o ∧ o < high ∧ live o = true} (liveBetween live low high).getLast? := by
  rcases List.eq_nil_or_concat (liveBetween live low high) with h | ⟨rest, o, h⟩
  · rw [h]
    apply greatest_none
    intro p hp
    have hmem := mem_liveBetween.mpr hp
    rw [h] at hmem
    cases hmem
  · rw [List.concat_eq_append] at h
    obtain ⟨-, hback, ho⟩ := liveBetween_cut h
    rw [h, List.getLast?_concat]
    refine greatest_some ho fun p hp => Nat.le_of_not_lt fun hlt => ?_
    have hmem := mem_liveBetween.mpr ⟨hlt, hp.2.1, hp.2.2⟩
    rw [← hback] at hmem
    cases hmem

end

/-- Walks offsets in their order. The depth goes up at a deeper one and down at any other; the
offset that brings it down to 0, or the depth after all of them. -/
def walk (deeper : Nat → Bool) : Nat → List Nat → Option Nat × Nat
  | depth, [] => (none, depth)
  | depth, o :: rest =>
    let depth := if deeper o then depth + 1 else depth - 1
    if depth = 0 then (some o, 0) else walk deeper depth rest

/-- Whether the offsets that are not deeper outnumber those that are by `depth`. -/
def Outnumber (deeper : Nat → Bool) (depth : Nat) (offsets : List Nat) : Prop :=
  offsets.countP (fun o => !deeper o) = offsets.countP deeper + depth

section

variable {deeper : Nat → Bool} {depth : Nat}

theorem outnumber_nil (hdepth : 0 < depth) : ¬ Outnumber deeper depth [] := by
  intro h
  have : 0 = 0 + depth := h
  omega

theorem outnumber_reverse {offsets : List Nat} :
    Outnumber deeper depth offsets.reverse ↔ Outnumber deeper depth offsets := by
  rw [Outnumber, Outnumber, List.countP_reverse, List.countP_reverse]

/-- The step of a walk. -/
theorem outnumber_cons (hdepth : 0 < depth) {o : Nat} {offsets : List Nat} :
    Outnumber deeper depth (o :: offsets) ↔
      Outnumber deeper (if deeper o then depth + 1 else depth - 1) offsets := by
  simp only [Outnumber, List.countP_cons]
  cases deeper o with
  | true =>
    simp only [if_true, Bool.not_true, Bool.false_eq_true, if_false]
    omega
  | false =>
    simp only [if_true, Bool.not_false, Bool.false_eq_true, if_false]
    omega

theorem walk_cons (deeper : Nat → Bool) (depth o : Nat) (rest : List Nat) :
    walk deeper depth (o :: rest) =
      if (if deeper o then depth + 1 else depth - 1) = 0 then (some o, 0)
      else walk deeper (if deeper o then depth + 1 else depth - 1) rest := rfl

/-- A walk ends at the offset through which the others outnumber the deeper ones for the first time.
-/
theorem walk_spec (deeper : Nat → Bool) (hdepth : 0 < depth) (offsets : List Nat) :
    (∃ front o back, (walk deeper depth offsets).1 = some o ∧ offsets = front ++ o :: back ∧
      Outnumber deeper depth (front ++ [o]) ∧
      ∀ p, p <+: front → ¬ Outnumber deeper depth p) ∨
    ((walk deeper depth offsets).1 = none ∧
      ∀ p, p <+: offsets → ¬ Outnumber deeper depth p) := by
  induction offsets generalizing depth with
  | nil =>
    refine .inr ⟨rfl, fun p hp => ?_⟩
    rw [List.prefix_nil.mp hp]
    exact outnumber_nil hdepth
  | cons o rest ih =>
    rw [walk_cons]
    by_cases hzero : (if deeper o then depth + 1 else depth - 1) = 0
    · rw [if_pos hzero]
      refine .inl ⟨[], o, rest, rfl, rfl, ?_, ?_⟩
      · rw [List.nil_append, outnumber_cons hdepth, hzero]
        rfl
      · intro p hp
        rw [List.prefix_nil.mp hp]
        exact outnumber_nil hdepth
    · rw [if_neg hzero]
      have hcons : ∀ offsets, (∀ p, p <+: offsets →
          ¬ Outnumber deeper (if deeper o then depth + 1 else depth - 1) p) →
          ∀ p, p <+: o :: offsets → ¬ Outnumber deeper depth p := by
        intro offsets hnone p hp
        rcases List.prefix_cons_iff.mp hp with rfl | ⟨q, rfl, hq⟩
        · exact outnumber_nil hdepth
        · rw [outnumber_cons hdepth]
          exact hnone q hq
      rcases ih (Nat.pos_of_ne_zero hzero) with ⟨front, q, back, hwalk, rfl, hq, hnone⟩ |
        ⟨hwalk, hnone⟩
      · refine .inl ⟨o :: front, q, back, hwalk, rfl, ?_, hcons front hnone⟩
        rw [List.cons_append, outnumber_cons hdepth]
        exact hq
      · exact .inr ⟨hwalk, hcons rest hnone⟩

/-- If nothing nests, the first offset ends a walk. -/
theorem walk_shallow (h : ∀ o, deeper o = false) (offsets : List Nat) :
    (walk deeper 1 offsets).1 = offsets.head? := by
  cases offsets with
  | nil => rfl
  | cons o rest =>
    rw [walk_cons, h o]
    rfl

theorem walk_append (offsets offsets' : List Nat) :
    walk deeper depth (offsets ++ offsets') =
      match walk deeper depth offsets with
      | (some o, depth) => (some o, depth)
      | (none, depth) => walk deeper depth offsets' := by
  induction offsets generalizing depth with
  | nil => rfl
  | cons o rest ih =>
    rw [List.cons_append, walk_cons, walk_cons]
    by_cases hzero : (if deeper o then depth + 1 else depth - 1) = 0
    · rw [if_pos hzero, if_pos hzero]
    · rw [if_neg hzero, if_neg hzero, ih]

end

namespace Context

/-- Whether a character nests deeper at an offset. In a pair that opens and closes alike none does.
-/
def nests (ctx : Context) (pair : CharPair) (deeper : Char) (o : Nat) : Bool :=
  ctx.text[o]? == some deeper && !pair.isSymmetric

def count (ctx : Context) (live : Nat → Bool) (c : Char) (low high : Nat) : Nat :=
  (liveBetween live low high).countP fun o => ctx.text[o]? == some c

/-- Whether a pair opened at `start` may be closed at `q`: from behind the start through `q` the
closing characters are one more than the opening ones. Pairs that open and close alike do not nest.
-/
def ClosesAt (ctx : Context) (pair : CharPair) (live : Nat → Bool) (start q : Nat) : Prop :=
  start < q ∧ live q = true ∧ (pair.isSymmetric = false →
    ctx.count live pair.closing (start + 1) (q + 1) =
      ctx.count live pair.opening (start + 1) (q + 1) + 1)

/-- Whether a pair closed at `finish` may be opened at `q`. -/
def OpensAt (ctx : Context) (pair : CharPair) (live : Nat → Bool) (finish q : Nat) : Prop :=
  q < finish ∧ live q = true ∧ (pair.isSymmetric = false →
    ctx.count live pair.opening q finish = ctx.count live pair.closing q finish + 1)

instance (ctx : Context) (pair : CharPair) (live : Nat → Bool) (start q : Nat) :
    Decidable (ctx.ClosesAt pair live start q) :=
  inferInstanceAs (Decidable (_ ∧ _ ∧ _))

instance (ctx : Context) (pair : CharPair) (live : Nat → Bool) (finish q : Nat) :
    Decidable (ctx.OpensAt pair live finish q) :=
  inferInstanceAs (Decidable (_ ∧ _ ∧ _))

section

variable {ctx : Context} {pair : CharPair} {live : Nat → Bool}

theorem depthAfter_eq {o : Nat} {c : Char} (h : ctx.text[o]? = some c) (deeper : Char)
    (depth : Nat) : pair.depthAfter deeper depth c =
      if ctx.nests pair deeper o then depth + 1 else depth - 1 := by
  rw [CharPair.depthAfter, nests, h]
  simp

theorem nests_symmetric (h : pair.isSymmetric = true) (deeper : Char) (o : Nat) :
    ctx.nests pair deeper o = false := by
  rw [nests, h, Bool.not_true, Bool.and_false]

/-- Where two characters open and close, those that do not nest are the others of the pair. -/
theorem outnumber_iff (h : pair.isSymmetric = false) {deeper other : Char} (hne : deeper ≠ other)
    (hlive : ∀ o, live o = true → ctx.text[o]? = some deeper ∨ ctx.text[o]? = some other)
    (depth low high : Nat) :
    Outnumber (ctx.nests pair deeper) depth (liveBetween live low high) ↔
      ctx.count live other low high = ctx.count live deeper low high + depth := by
  have hdeeper : ctx.nests pair deeper = fun o => ctx.text[o]? == some deeper := by
    funext o
    rw [nests, h, Bool.not_false, Bool.and_true]
  have hother : (liveBetween live low high).countP (fun o => !ctx.nests pair deeper o) =
      ctx.count live other low high := by
    apply List.countP_congr
    intro o ho
    rw [hdeeper]
    rcases hlive o (mem_liveBetween.mp ho).2.2 with hc | hc
    · simp [hc, hne]
    · simp [hc, hne.symm]
  rw [Outnumber, hother, hdeeper, count]
  rfl

variable (hlive : ∀ o, live o = true →
  ctx.text[o]? = some pair.opening ∨ ctx.text[o]? = some pair.closing)
include hlive

/-- A walk over the live offsets behind the start finds the closing peer. -/
theorem least_closesAt (start : Nat) :
    Least {q | ctx.ClosesAt pair live start q}
      (walk (ctx.nests pair pair.opening) 1 (liveBetween live (start + 1) ctx.text.length)).1 := by
  have hlength : ∀ o, live o = true → o < ctx.text.length := by
    intro o ho
    rcases hlive o ho with hc | hc <;> exact (List.getElem?_eq_some_iff.mp hc).1
  cases hsymmetric : pair.isSymmetric with
  | true =>
    have hset : {q | ctx.ClosesAt pair live start q} =
        {q | start + 1 ≤ q ∧ q < ctx.text.length ∧ live q = true} := by
      ext q
      constructor
      · rintro ⟨hq, hq', -⟩
        exact ⟨hq, hlength q hq', hq'⟩
      · rintro ⟨hq, -, hq'⟩
        exact ⟨hq, hq', fun h => nomatch hsymmetric.symm.trans h⟩
    rw [walk_shallow (nests_symmetric hsymmetric pair.opening), hset]
    exact least_head live (start + 1) ctx.text.length
  | false =>
    have hiff (q : Nat) := outnumber_iff hsymmetric (CharPair.opening_ne_closing hsymmetric) hlive
      1 (start + 1) (q + 1)
    rcases walk_spec (ctx.nests pair pair.opening) Nat.one_pos
      (liveBetween live (start + 1) ctx.text.length) with
      ⟨front, o, back, hwalk, hcut, ho, hnone⟩ | ⟨hwalk, hnone⟩
    · obtain ⟨rfl, -, hlow, hhigh, hlive'⟩ := liveBetween_cut hcut
      rw [← liveBetween_succ hlive' hlow] at ho
      rw [hwalk]
      refine least_some ⟨hlow, hlive', fun _ => (hiff o).mp ho⟩ ?_
      rintro q ⟨hq, -, hcount⟩
      refine Nat.le_of_not_lt fun hlt => ?_
      exact hnone _ (liveBetween_front (Nat.le_succ_of_le hq) hlt)
        ((hiff q).mpr (hcount hsymmetric))
    · rw [hwalk]
      apply least_none
      rintro q ⟨hq, hq', hcount⟩
      exact hnone _ (liveBetween_front (Nat.le_succ_of_le hq) (hlength q hq'))
        ((hiff q).mpr (hcount hsymmetric))

/-- A walk back over the live offsets before the end finds the opening peer. -/
theorem greatest_opensAt (finish : Nat) :
    Greatest {q | ctx.OpensAt pair live finish q}
      (walk (ctx.nests pair pair.closing) 1 (liveBetween live 0 finish).reverse).1 := by
  cases hsymmetric : pair.isSymmetric with
  | true =>
    have hset : {q | ctx.OpensAt pair live finish q} =
        {q | 0 ≤ q ∧ q < finish ∧ live q = true} := by
      ext q
      constructor
      · rintro ⟨hq, hq', -⟩
        exact ⟨Nat.zero_le q, hq, hq'⟩
      · rintro ⟨-, hq, hq'⟩
        exact ⟨hq, hq', fun h => nomatch hsymmetric.symm.trans h⟩
    rw [walk_shallow (nests_symmetric hsymmetric pair.closing), List.head?_reverse, hset]
    exact greatest_last live 0 finish
  | false =>
    have hiff (q : Nat) := outnumber_iff hsymmetric (CharPair.opening_ne_closing hsymmetric).symm
      (fun o ho => (hlive o ho).symm) 1 q finish
    rcases walk_spec (ctx.nests pair pair.closing) Nat.one_pos
      (liveBetween live 0 finish).reverse with
      ⟨front, o, back, hwalk, hcut, ho, hnone⟩ | ⟨hwalk, hnone⟩
    · rw [List.reverse_eq_iff, List.reverse_append, List.reverse_cons, List.append_assoc,
        List.singleton_append] at hcut
      obtain ⟨-, hfront, -, hhigh, hlive'⟩ := liveBetween_cut hcut
      rw [List.reverse_eq_iff] at hfront
      rw [hfront, ← List.reverse_cons, outnumber_reverse, ← liveBetween_cons hlive' hhigh] at ho
      rw [hwalk]
      refine greatest_some ⟨hhigh, hlive', fun _ => (hiff o).mp ho⟩ ?_
      rintro q ⟨hq, -, hcount⟩
      refine Nat.le_of_not_lt fun hlt => hnone (liveBetween live q finish).reverse ?_ ?_
      · rw [hfront, List.reverse_prefix]
        exact liveBetween_back hlt (Nat.le_of_lt hq)
      · rw [outnumber_reverse]
        exact (hiff q).mpr (hcount hsymmetric)
    · rw [hwalk]
      apply greatest_none
      rintro q ⟨hq, hq', hcount⟩
      refine hnone (liveBetween live q finish).reverse ?_ ?_
      · rw [List.reverse_prefix]
        exact liveBetween_back (Nat.zero_le q) (Nat.le_of_lt hq)
      · rw [outnumber_reverse]
        exact (hiff q).mpr (hcount hsymmetric)

end

end Context

section

variable {ctx : Context} {live : Nat → Bool}

/-- A forward scan that stops does so at the first of the live offsets. -/
theorem EndsForward.first {inv : Nat → Condition → Prop} {start limit : Nat} {out : Outcome}
    (h : EndsForward ctx live inv start limit out) (hctx : ctx.Faithful)
    (hlimit : limit ≤ ctx.document.length) (hstopped : out.stopped = true) :
    ∃ o : Nat, out.found? = some o ∧ out.cursor.position = o ∧
      ctx.text[o]? = some out.cursor.char ∧ o < limit ∧ inv (o + 1) out.condition ∧
      liveBetween live start limit = o :: liveBetween live (o + 1) limit := by
  cases h with
  | found o _ hposition hchar hstart hlt hlive hfirst hinv =>
    have hfound := hctx.found?_eq hstopped hposition (by omega)
    exact ⟨o, hfound, hposition, hchar, hlt, hinv, liveBetween_first hlive hstart hlt hfirst⟩
  | exhausted hstopped' => exact nomatch hstopped.symm.trans hstopped'

theorem EndsForward.nothing {inv : Nat → Condition → Prop} {start limit : Nat} {out : Outcome}
    (h : EndsForward ctx live inv start limit out) (hstopped : ¬ out.stopped = true) :
    inv limit out.condition ∧ liveBetween live start limit = [] := by
  cases h with
  | found o hstopped' => exact absurd hstopped' hstopped
  | exhausted _ _ hnone hinv => exact ⟨hinv, liveBetween_eq_nil hnone⟩

/-- A backward scan that stops does so at the last of the live offsets. -/
theorem EndsBackward.last {inv : Condition → Prop} {finish : Nat} {out : Outcome}
    (h : EndsBackward ctx live inv (finish - 1) (-1) out) (hctx : ctx.Faithful)
    (hfinish : finish ≤ ctx.document.length) (hstopped : out.stopped = true) :
    ∃ o : Nat, out.found? = some o ∧ out.cursor.position = o ∧
      ctx.text[o]? = some out.cursor.char ∧ o < finish ∧ inv out.condition ∧
      liveBetween live 0 finish = liveBetween live 0 o ++ [o] := by
  cases h with
  | found o _ hposition hchar hstart _ hlive hlast hinv =>
    have hlt : o < finish := by omega
    have hfound := hctx.found?_eq hstopped hposition (by omega)
    refine ⟨o, hfound, hposition, hchar, hlt, hinv, liveBetween_last hlive (Nat.zero_le o) hlt ?_⟩
    intro p hp hp'
    exact hlast p hp (by omega)
  | exhausted hstopped' => exact nomatch hstopped.symm.trans hstopped'

theorem EndsBackward.nothing {inv : Condition → Prop} {finish : Nat} {out : Outcome}
    (h : EndsBackward ctx live inv (finish - 1) (-1) out) (hstopped : ¬ out.stopped = true) :
    liveBetween live 0 finish = [] := by
  cases h with
  | found o hstopped' => exact absurd hstopped' hstopped
  | exhausted _ _ hnone _ => exact liveBetween_eq_nil fun p _ hp => hnone p (by omega) (by omega)

/-- Scan after scan, the search forward walks the live offsets in order. -/
theorem closingFrom_eq {inv : Nat → Condition → Prop} (h : Tracks ctx live inv)
    (hctx : ctx.Faithful) (pair : CharPair) {limit : Nat} (hlimit : limit ≤ ctx.document.length)
    (depth : Nat) (cur : Cursor) (cond : Condition) :
    ∀ start : Nat, cur.position = start → inv (min start limit) cond →
      (closingFrom ctx pair limit depth cur cond).1 =
        (walk (ctx.nests pair pair.opening) depth (liveBetween live start limit)).1 := by
  fun_induction closingFrom ctx pair limit depth cur cond with
  | case1 depth cur cond out hstopped depth' hzero =>
    intro start hcur hinv
    obtain ⟨o, hfound, -, hchar, -, -, hnext⟩ :=
      (forward_ends h hctx hlimit cur cond start hcur hinv).first hctx hlimit hstopped
    rw [hnext, walk_cons, ← Context.depthAfter_eq hchar, if_pos hzero]
    exact hfound
  | case2 depth cur cond out hstopped depth' hdeep ih =>
    intro start hcur hinv
    obtain ⟨o, -, hposition, hchar, hlt, hinv', hnext⟩ :=
      (forward_ends h hctx hlimit cur cond start hcur hinv).first hctx hlimit hstopped
    rw [hnext, walk_cons, ← Context.depthAfter_eq hchar, if_neg hdeep]
    refine ih (o + 1) ?_ ?_
    · rw [Cursor.position_moveTo, hposition]
      rfl
    · rw [Nat.min_eq_left hlt]
      exact hinv'
  | case3 depth cur cond out hstopped =>
    intro start hcur hinv
    rw [((forward_ends h hctx hlimit cur cond start hcur hinv).nothing hstopped).2]
    rfl

/-- The search backward walks them in reverse. -/
theorem openingFrom_eq {inv : Condition → Prop} (h : Retraces ctx live inv)
    (hctx : ctx.Faithful) (pair : CharPair) (depth : Nat) (cur : Cursor) (cond : Condition)
    (hinv : inv cond) :
    ∀ finish : Nat, cur.position = (finish : Int) - 1 → finish ≤ ctx.document.length →
      (openingFrom ctx pair (-1) depth cur cond).1 =
        (walk (ctx.nests pair pair.closing) depth (liveBetween live 0 finish).reverse).1 := by
  fun_induction openingFrom ctx pair (-1) depth cur cond with
  | case1 depth cur cond out hstopped depth' hzero =>
    intro finish hcur hfinish
    have hends := backward_ends h hctx (Int.le_refl _) cur cond (by omega) hinv
    rw [hcur] at hends
    obtain ⟨o, hfound, -, hchar, -, -, hlast⟩ := hends.last hctx hfinish hstopped
    rw [hlast, List.reverse_concat, walk_cons, ← Context.depthAfter_eq hchar, if_pos hzero]
    exact hfound
  | case2 depth cur cond out hstopped depth' hdeep ih =>
    intro finish hcur hfinish
    have hends := backward_ends h hctx (Int.le_refl _) cur cond (by omega) hinv
    rw [hcur] at hends
    obtain ⟨o, -, hposition, hchar, hlt, hinv', hlast⟩ := hends.last hctx hfinish hstopped
    rw [hlast, List.reverse_concat, walk_cons, ← Context.depthAfter_eq hchar, if_neg hdeep]
    refine ih hinv' o ?_ (by omega)
    rw [Cursor.position_moveTo, hposition]
  | case3 depth cur cond out hstopped =>
    intro finish hcur hfinish
    have hends := backward_ends h hctx (Int.le_refl _) cur cond (by omega) hinv
    rw [hcur] at hends
    rw [hends.nothing hstopped]
    rfl

theorem closingPeerWith_eq (hctx : ctx.Faithful) {start : Nat}
    (hstart : start < ctx.document.length) (pair : CharPair) (cond : Condition) (cur : Cursor) :
    closingPeerWith start pair cond ctx cur =
      .ok (closingFrom ctx pair ctx.document.length 1 (cur.moveTo (start + 1 : Nat)) cond) := by
  rw [closingPeerWith, if_pos hstart, Context.limit_unbound, Nat.min_eq_left hstart,
    hctx.toPosition_eq hstart, hctx.toPosition_eq (Nat.le_refl _)]
  rfl

theorem closingPeerWith_spec {inv : Nat → Condition → Prop} (h : Tracks ctx live inv)
    (hctx : ctx.Faithful) (pair : CharPair) (hlive : ∀ o, live o = true →
      ctx.text[o]? = some pair.opening ∨ ctx.text[o]? = some pair.closing)
    (start : Nat) (cond : Condition) (hinv : inv (start + 1) cond) (cur : Cursor) :
    ∃ r cur', closingPeerWith start pair cond ctx cur = .ok (r, cur') ∧
      (ctx.document.length ≤ start → r = none) ∧
      (start < ctx.document.length → Least {q | ctx.ClosesAt pair live start q} r) := by
  by_cases hstart : start < ctx.document.length
  · refine ⟨_, _, closingPeerWith_eq hctx hstart pair cond cur,
      fun hle => absurd hstart (Nat.not_lt.mpr hle), fun _ => ?_⟩
    rw [closingFrom_eq h hctx pair (Nat.le_refl _) 1 _ cond (start + 1) rfl
      (by rwa [Nat.min_eq_left hstart]), hctx.length_eq]
    exact Context.least_closesAt hlive start
  · refine ⟨none, cur, ?_, fun _ => rfl, fun hlt => absurd hlt hstart⟩
    rw [closingPeerWith, if_neg hstart]

theorem openingPeer_eq (hctx : ctx.Faithful) (start : Nat) (pair : CharPair) (cur : Cursor) :
    openingPeer start pair ctx cur =
      .ok (openingFrom ctx pair (-1) 1 (cur.moveTo ((min start ctx.document.length : Nat) - 1))
        (.gate (.among pair.chars))) := by
  rw [openingPeer, hctx.toPosition_eq (Nat.min_le_right start ctx.document.length)]

theorem Context.passes_pair {pair : CharPair} {o : Nat}
    (h : ctx.passes (fun c => pair.chars.contains c) o = true) :
    ctx.text[o]? = some pair.opening ∨ ctx.text[o]? = some pair.closing := by
  rw [passes, Bool.and_eq_true, Option.any_eq_true] at h
  obtain ⟨-, c, hc, hmem⟩ := h
  rw [hc]
  simpa [CharPair.chars] using hmem

end

/-- The peers of a pair are found by counting its accepted characters, however they nest and
whatever is rejected between them. -/
theorem gated_peers_exact (b : Buffer) (hb : b.length ≤ lastPosition) (classifier : Classifier)
    (hclassifier : classifier.Standard) (filter : Filter) (pair : CharPair) (start : Nat)
    (cur : Cursor) :
    let ctx : Context := ⟨b.document, classifier, filter⟩
    let live := ctx.passes fun c => pair.chars.contains c
    (∃ r cur', closingPeer start pair ctx cur = .ok (r, cur') ∧
      (b.length ≤ start → r = none) ∧
      (start < b.length → Least {q | ctx.ClosesAt pair live start q} r)) ∧
    (∃ r cur', openingPeer start pair ctx cur = .ok (r, cur') ∧
      Greatest {q | ctx.OpensAt pair live (min start b.length) q} r) := by
  intro ctx live
  have hfaithful : ctx.Faithful := Context.faithful_document hb classifier filter
  have hctx : ctx.Coherent := hclassifier.coherent b.document
  have hlive : ∀ o, live o = true →
      ctx.text[o]? = some pair.opening ∨ ctx.text[o]? = some pair.closing :=
    fun o ho => Context.passes_pair ho
  have hgate := gates_gate ctx (.among pair.chars)
  constructor
  · exact
      closingPeerWith_spec (tracks_gate rfl hctx hfaithful) hfaithful pair hlive start _ hgate cur
  · refine ⟨_, _, openingPeer_eq hfaithful start pair cur, ?_⟩
    rw [openingFrom_eq (retraces_gate rfl hctx hfaithful) hfaithful pair 1 _ _ hgate
      (min start b.length) rfl (Nat.min_le_right start b.length)]
    exact Context.greatest_opensAt hlive (min start b.length)

/-- The inner pair nests, and the closing parenthesis inside the quotes does not count. -/
theorem gated_peers_exact_quoted :
    let b := Buffer.scratch ['(', '(', '"', ')', '"', ')', ')']
    let classifier := (PartitionMap.ofSpans "quotes" 7 [⟨"string", 2, 3⟩]).classifier
    let ctx : Context := ⟨b.document, classifier, .defaultOnly⟩
    b.length ≤ lastPosition ∧ ∃ cur, closingPeer 0 .parentheses ctx {} = .ok (some 6, cur) := by
  intro b classifier ctx
  have hb : b.length ≤ lastPosition := by decide
  obtain ⟨r, cur, hanswer, -, hleast⟩ :=
    (gated_peers_exact b hb classifier (.map _ _ _ (by decide)) .defaultOnly .parentheses 0 {}).1
  have hcloses : ctx.ClosesAt .parentheses
      (ctx.passes fun c => CharPair.parentheses.chars.contains c) 0 6 := by decide
  have hfirst : ∀ p < 6, ¬ ctx.ClosesAt .parentheses
      (ctx.passes fun c => CharPair.parentheses.chars.contains c) 0 p := by decide
  obtain rfl : r = some 6 := (hleast (by decide)).unique
    (least_some hcloses fun p hp => Nat.le_of_not_lt fun hlt => hfirst p hlt hp)
  exact ⟨hb, cur, hanswer⟩

end Scan

end PartitionScan
