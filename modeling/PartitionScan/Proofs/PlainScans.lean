import PartitionScan.Proofs.Runs

/-!
# Plain scans of a text of any stated length

A document may state any length for its text. A scan whose condition only tests characters reads on
from one offset to the next, so that going forward it is stopped by the end of the text wherever
that is, and going backward only its first read can fail. What it leaves behind, the position and
the character last read, is told by the offsets it has read.
-/
namespace PartitionScan.Scan

/-- How a forward scan from `start` up to `limit` ended: at an offset where it stops, or at one that
is the limit or cannot be read. Up to that offset it has read everything. -/
inductive ReadsForward (text : List Char) (test : Char → Bool) (start limit : Nat) (before : Char)
    (out : Outcome) : Prop
  | found (o : Nat) (hstopped : out.stopped = true) (hposition : out.cursor.position = o)
      (hstart : start ≤ o) (hlimit : o < limit) (hchar : text[o]? = some out.cursor.char)
      (hlive : stopsAt text test o = true)
      (hquiet : ∀ p, start ≤ p → p < o → stopsAt text test p = false)
  | ended (o : Nat) (hstopped : out.stopped = false) (hposition : out.cursor.position = o)
      (hstart : start ≤ o) (hlimit : o ≤ limit) (hend : o = limit ∨ text.length ≤ o)
      (hchar : start = o ∧ out.cursor.char = before ∨
        start < o ∧ text[o - 1]? = some out.cursor.char)
      (hquiet : ∀ p, start ≤ p → p < o → stopsAt text test p = false)

inductive ReadsBackward (text : List Char) (test : Char → Bool) (start limit : Int) (before : Char)
    (out : Outcome) : Prop
  | found (o : Nat) (hstopped : out.stopped = true) (hposition : out.cursor.position = o)
      (hstart : o ≤ start) (hlimit : limit < o) (hchar : text[o]? = some out.cursor.char)
      (hlive : stopsAt text test o = true)
      (hquiet : ∀ p : Nat, o < p → p ≤ start → stopsAt text test p = false)
  | ended (hstopped : out.stopped = false) (hposition : out.cursor.position = limit)
      (hchar : start ≤ limit ∧ out.cursor.char = before ∨
        limit < start ∧ text[(limit + 1).toNat]? = some out.cursor.char)
      (hquiet : ∀ p : Nat, limit < p → p ≤ start → stopsAt text test p = false)

section

variable {text : List Char} {test : Char → Bool} {before c : Char} {out : Outcome}

theorem stopsAt_of_getElem? {o : Nat} (hc : text[o]? = some c) : stopsAt text test o = test c := by
  rw [stopsAt, hc, Option.any_some]

theorem lt_length_of_stopsAt {o : Nat} (h : stopsAt text test o = true) : o < text.length := by
  refine Nat.lt_of_not_le fun hle => ?_
  rw [stopsAt, List.getElem?_eq_none hle] at h
  cases h

/-- One more character in front, at which the scan does not stop. -/
theorem ReadsForward.extend {start limit : Nat} (h : ReadsForward text test (start + 1) limit c out)
    (hc : text[start]? = some c) (hdead : test c = false) :
    ReadsForward text test start limit before out := by
  have hfirst {o : Nat} (hquiet : ∀ p, start + 1 ≤ p → p < o → stopsAt text test p = false) :
      ∀ p, start ≤ p → p < o → stopsAt text test p = false := by
    intro p hp hp'
    rcases Nat.eq_or_lt_of_le hp with rfl | hlt
    · rw [stopsAt_of_getElem? hc, hdead]
    · exact hquiet p hlt hp'
  cases h with
  | found o hstopped hposition hstart hlimit hchar hlive hquiet =>
    exact .found o hstopped hposition (by omega) hlimit hchar hlive (hfirst hquiet)
  | ended o hstopped hposition hstart hlimit hend hchar hquiet =>
    refine .ended o hstopped hposition (by omega) hlimit hend (.inr ⟨by omega, ?_⟩) (hfirst hquiet)
    rcases hchar with ⟨rfl, hchar⟩ | ⟨-, hchar⟩
    · rw [hchar]
      exact hc
    · exact hchar

theorem ReadsBackward.extend {start limit : Int} {o : Nat} (ho : start = o) (hlimit : limit < start)
    (h : ReadsBackward text test (start - 1) limit c out)
    (hc : text[o]? = some c) (hdead : test c = false) :
    ReadsBackward text test start limit before out := by
  have hfirst (low : Int)
      (hquiet : ∀ p : Nat, low < p → p ≤ start - 1 → stopsAt text test p = false) :
      ∀ p : Nat, low < p → p ≤ start → stopsAt text test p = false := by
    intro p hp hp'
    by_cases heq : p = o
    · rw [heq, stopsAt_of_getElem? hc, hdead]
    · exact hquiet p hp (by omega)
  cases h with
  | found q hstopped hposition hstart hlimit hchar hlive hquiet =>
    refine .found q hstopped hposition (by omega) hlimit hchar hlive fun p hp hp' => ?_
    exact hfirst q (fun m hm => hquiet m (by omega)) p (by omega) hp'
  | ended hstopped hposition hchar hquiet =>
    refine .ended hstopped hposition (.inr ⟨hlimit, ?_⟩) (hfirst limit hquiet)
    rcases hchar with ⟨hle, hchar⟩ | ⟨-, hchar⟩
    · rw [hchar, show (limit + 1).toNat = o by omega]
      exact hc
    · exact hchar

end

section

variable {ctx : Context} {b : Buffer} (hdoc : ctx.document.charAt = b.charAt)
include hdoc

theorem charAt_ok_iff {o : Nat} (ho : o < offsetLimit) (c : Char) :
    ctx.charAt o = .ok c ↔ b.text[o]? = some c := by
  rw [Context.charAt, hdoc, toOffset_natCast ho, Buffer.charAt_ok_iff]

theorem length_le_of_charAt_error {o : Nat} (ho : o < offsetLimit) {e : Fault}
    (he : ctx.charAt o = .error e) : b.text.length ≤ o := by
  refine Nat.le_of_not_lt fun hlt => ?_
  rw [(charAt_ok_iff hdoc ho _).mpr (List.getElem?_eq_getElem hlt)] at he
  cases he

variable {inner : Condition} {test : Char → Bool} (htest : inner.test? = some test)
include htest

theorem forward_reads {limit : Nat} (hlimit : limit ≤ lastPosition) (cur : Cursor)
    (cond : Condition) (hcond : cond = inner) :
    ∀ start : Nat, cur.position = start → start ≤ limit →
      ReadsForward b.text test start limit cur.char (forward ctx limit cur cond) := by
  have hsmall : lastPosition < offsetLimit := by decide
  fun_induction forward ctx limit cur cond with
  | case1 cur cond hlt e he =>
    intro start hcur hle
    rw [hcur] at he
    exact .ended start rfl hcur (Nat.le_refl start) hle
      (.inr (length_le_of_charAt_error hdoc (by omega) he)) (.inl ⟨rfl, rfl⟩)
      (fun p hp hp' => by omega)
  | case2 cur cond hlt c hc v cur' hv =>
    intro start hcur hle
    rw [hcur, charAt_ok_iff hdoc (by omega)] at hc
    have hstop : test c = true := by
      simpa only [v, hcond, Condition.stop_of_test htest] using hv
    exact .found start rfl hcur (Nat.le_refl start) (by omega) hc
      ((stopsAt_of_getElem? hc).trans hstop) (fun p hp hp' => by omega)
  | case3 cur cond hlt c hc v cur' hv ih =>
    intro start hcur hle
    rw [hcur, charAt_ok_iff hdoc (by omega)] at hc
    have hv' : v = { stops := test c, condition := inner } := by
      rw [← Condition.stop_of_test htest ctx cur.position c, ← hcond]
    have hnext : v.condition.nextForward cur.position = (start + 1 : Nat) := by
      rw [hv', Condition.nextForward_of_test htest, hcur]
      rfl
    have hdead : test c = false := by simpa [hv'] using hv
    exact (ih (by rw [hv']) (start + 1) hnext (by omega)).extend hc hdead
  | case4 cur cond hge =>
    intro start hcur hle
    exact .ended limit rfl rfl hle (Nat.le_refl limit) (.inl rfl) (.inl ⟨by omega, rfl⟩)
      (fun p hp hp' => by omega)

/-- Once an offset can be read, so can those before it. -/
theorem backward_reads {limit : Int} (hlimit : -1 ≤ limit) (cur : Cursor) (cond : Condition)
    (hcond : cond = inner) (hposition : cur.position ≤ lastPosition)
    (hread : limit < cur.position → cur.position < b.text.length) :
    ReadsBackward b.text test cur.position limit cur.char (backward ctx limit cur cond) := by
  have hsmall : lastPosition < offsetLimit := by decide
  fun_induction backward ctx limit cur cond with
  | case1 cur cond hlt e he =>
    obtain ⟨o, hcur⟩ := Int.eq_ofNat_of_zero_le (show 0 ≤ cur.position by omega)
    rw [hcur] at he
    have := length_le_of_charAt_error hdoc (by omega) he
    have := hread hlt
    omega
  | case2 cur cond hlt c hc v cur' hv =>
    obtain ⟨o, hcur⟩ := Int.eq_ofNat_of_zero_le (show 0 ≤ cur.position by omega)
    rw [hcur, charAt_ok_iff hdoc (by omega)] at hc
    have hstop : test c = true := by
      simpa only [v, hcond, Condition.stop_of_test htest] using hv
    exact .found o rfl hcur (by omega) (by omega) hc
      ((stopsAt_of_getElem? hc).trans hstop) (fun p hp hp' => by omega)
  | case3 cur cond hlt c hc v cur' hv ih =>
    obtain ⟨o, hcur⟩ := Int.eq_ofNat_of_zero_le (show 0 ≤ cur.position by omega)
    rw [hcur, charAt_ok_iff hdoc (by omega)] at hc
    have hv' : v = { stops := test c, condition := inner } := by
      rw [← Condition.stop_of_test htest ctx cur.position c, ← hcond]
    have hnext : v.condition.nextBackward cur.position = cur.position - 1 := by
      rw [hv', Condition.nextBackward_of_test htest]
    have hdead : test c = false := by simpa [hv'] using hv
    have hrest := ih (by rw [hv']) (by rw [Cursor.position_moveTo]; omega)
      (fun _ => by rw [Cursor.position_moveTo]; have := hread hlt; omega)
    rw [Cursor.position_moveTo, hnext] at hrest
    rw [hnext]
    exact hrest.extend hcur hlt hc hdead
  | case4 cur cond hge =>
    exact .ended rfl rfl (.inl ⟨by omega, rfl⟩) (fun p hp hp' => by omega)

end

/-- What a forward scan of a text from `start` up to `limit` gives and leaves behind. -/
structure ForwardExact (text : List Char) (test : Char → Bool) (start limit : Nat) (before : Cursor)
    (found : Option Nat) (after : Cursor) : Prop where
  least : Least {o | start ≤ o ∧ o < limit ∧ stopsAt text test o = true} found
  position_found : ∀ o ∈ found, after.position = o
  /-- Every offset of the range could be read. -/
  position_limit : found = none → (∀ o, start ≤ o → o < limit → o < text.length) →
    after.position = limit
  /-- There is a first offset that could not. -/
  position_unreadable : found = none →
    ∀ o, IsLeast {o | start ≤ o ∧ text.length ≤ o} o → o < limit →
    after.position = o
  /-- The last character that was read is the one furthest on. -/
  char : ∃ last, Greatest {o | start ≤ o ∧ o < limit ∧ o < text.length ∧ ∀ p ∈ found, o ≤ p} last ∧
    after.char = (last.bind fun o => text[o]?).getD before.char

/-- What a backward scan of a text from `start` down to behind `limit` gives and leaves behind. -/
structure BackwardExact (text : List Char) (test : Char → Bool) (start : Nat) (limit : Int)
    (before : Cursor) (found : Option Nat) (after : Cursor) : Prop where
  greatest : start < text.length →
    Greatest {o : Nat | limit < o ∧ o ≤ start ∧ stopsAt text test o = true} found
  unreadable : text.length ≤ start → found = none
  position_found : ∀ o ∈ found, after.position = o
  position_none : found = none →
    after.position = if limit < start ∧ text.length ≤ start then (start : Int) else limit
  /-- The last character that was read is the one furthest back. -/
  char : ∃ last, Least {o : Nat | limit < o ∧ o ≤ start ∧ start < text.length ∧ ∀ p ∈ found, p ≤ o}
    last ∧ after.char = (last.bind fun o => text[o]?).getD before.char

section

variable {text : List Char} {test : Char → Bool} {out : Outcome}

theorem Outcome.found?_eq_some {o : Nat} (hstopped : out.stopped = true)
    (hposition : out.cursor.position = o) (ho : o < offsetLimit) : out.found? = some o := by
  rw [found?, if_pos hstopped, hposition, toOffset_natCast ho]

theorem ReadsForward.exact {start limit : Nat} {before : Cursor} (hlimit : limit ≤ lastPosition)
    (h : ReadsForward text test (min start limit) limit before.char out) :
    ForwardExact text test start limit before out.found? out.cursor := by
  have hsmall : lastPosition < offsetLimit := by decide
  cases h with
  | found o hstopped hposition hstart hlimit hchar hlive hquiet =>
    have hstart' : start ≤ o := by omega
    have hlength := lt_length_of_stopsAt hlive
    rw [Outcome.found?_eq_some hstopped hposition (by omega)]
    refine ⟨least_some ⟨hstart', hlimit, hlive⟩ ?_, ?_, nofun, nofun, some o, ⟨⟨?_, ?_⟩, ?_⟩⟩
    · rintro p ⟨hp, -, hlive'⟩
      refine Nat.le_of_not_lt fun hlt => ?_
      rw [hquiet p (by omega) hlt] at hlive'
      cases hlive'
    · rintro p ⟨⟩
      exact hposition
    · exact ⟨hstart', hlimit, hlength, fun p hp => Nat.le_of_eq (Option.some.inj hp)⟩
    · rintro p ⟨-, -, -, hp⟩
      exact hp o rfl
    · rw [Option.bind_some, hchar, Option.getD_some]
  | ended o hstopped hposition hstart hle hend hchar hquiet =>
    rw [Outcome.found?_eq_none hstopped]
    refine ⟨least_none ?_, nofun, fun _ hread => ?_, fun _ m hm hmlimit => ?_, ?_⟩
    · rintro p ⟨hp, hp', hlive⟩
      have hlength := lt_length_of_stopsAt hlive
      rw [hquiet p (by omega) (by omega)] at hlive
      cases hlive
    · rw [hposition]
      by_cases hlt : o < limit
      · have := hread o (by omega) hlt
        omega
      · omega
    · obtain ⟨⟨hmstart, hmlength⟩, hmleast⟩ := hm
      have hquiet : o ≤ m := by
        rcases hchar with ⟨heq, -⟩ | ⟨hlt, hchar⟩
        · omega
        · have := (List.getElem?_eq_some_iff.mp hchar).1
          omega
      have hfirst : m ≤ o := hmleast ⟨by omega, by omega⟩
      rw [hposition, Nat.le_antisymm hquiet hfirst]
    · rcases hchar with ⟨heq, hchar⟩ | ⟨hlt, hchar⟩
      · refine ⟨none, greatest_none ?_, hchar⟩
        rintro p ⟨hp, hp', hlength, -⟩
        omega
      · have hlength := (List.getElem?_eq_some_iff.mp hchar).1
        refine ⟨some (o - 1), greatest_some ⟨by omega, by omega, hlength, nofun⟩ ?_, ?_⟩
        · rintro p ⟨-, hp, hp', -⟩
          omega
        · rw [Option.bind_some, hchar, Option.getD_some]

theorem ReadsBackward.exact {start : Nat} {limit : Int} {before : Cursor} (hlimit : -1 ≤ limit)
    (hstart : start ≤ lastPosition) (hread : limit < start → start < text.length)
    (h : ReadsBackward text test start limit before.char out) :
    BackwardExact text test start limit before out.found? out.cursor := by
  have hsmall : lastPosition < offsetLimit := by decide
  cases h with
  | found o hstopped hposition ho hlimit hchar hlive hquiet =>
    have hlength := hread (by omega)
    rw [Outcome.found?_eq_some hstopped hposition (by omega)]
    refine ⟨fun _ => greatest_some ⟨hlimit, by omega, hlive⟩ ?_, fun _ => by omega, ?_, nofun,
      some o, ⟨⟨?_, ?_⟩, ?_⟩⟩
    · rintro p ⟨-, hp, hlive'⟩
      refine Nat.le_of_not_lt fun hlt => ?_
      rw [hquiet p hlt (by omega)] at hlive'
      cases hlive'
    · rintro p ⟨⟩
      exact hposition
    · exact ⟨hlimit, by omega, hlength, fun p hp => Nat.le_of_eq (Option.some.inj hp).symm⟩
    · rintro p ⟨-, -, -, hp⟩
      exact hp o rfl
    · rw [Option.bind_some, hchar, Option.getD_some]
  | ended hstopped hposition hchar hquiet =>
    rw [Outcome.found?_eq_none hstopped]
    refine ⟨fun _ => greatest_none ?_, fun _ => rfl, nofun, fun _ => ?_, ?_⟩
    · rintro p ⟨hp, hp', hlive⟩
      rw [hquiet p hp (by omega)] at hlive
      cases hlive
    · rw [hposition, if_neg fun h => by have := hread h.1; omega]
    · rcases hchar with ⟨hle, hchar⟩ | ⟨hlt, hchar⟩
      · refine ⟨none, least_none ?_, hchar⟩
        rintro p ⟨hp, hp', -⟩
        omega
      · refine ⟨some (limit + 1).toNat, least_some ⟨by omega, by omega, hread hlt, nofun⟩ ?_, ?_⟩
        · rintro p ⟨hp, -⟩
          omega
        · rw [Option.bind_some, hchar, Option.getD_some]

/-- A first read that fails ends a backward scan where it is. -/
theorem backwardExact_unreadable {ctx : Context} {b : Buffer}
    (hdoc : ctx.document.charAt = b.charAt) (test : Char → Bool) {start : Nat} {limit : Int}
    (cur : Cursor) (cond : Condition) (hstart : start ≤ lastPosition) (hlimit : limit < start)
    (hlength : b.text.length ≤ start) :
    ∃ after, backward ctx limit (cur.moveTo start) cond = ⟨false, after, cond⟩ ∧
      BackwardExact b.text test start limit cur none after := by
  have hsmall : lastPosition < offsetLimit := by decide
  have hread : ∃ e, ctx.charAt start = .error e := by
    cases hc : ctx.charAt start with
    | error e => exact ⟨e, rfl⟩
    | ok c =>
      rw [charAt_ok_iff hdoc (by omega), List.getElem?_eq_none hlength] at hc
      cases hc
  obtain ⟨e, he⟩ := hread
  refine ⟨cur.moveTo start, ?_, fun hlt => by omega, fun _ => rfl, nofun, fun _ => ?_, none, ?_,
    rfl⟩
  · rw [backward, Cursor.position_moveTo, if_pos hlimit, he]
  · rw [if_pos ⟨hlimit, hlength⟩]
    rfl
  · refine least_none ?_
    rintro p ⟨-, -, hlt, -⟩
    omega

end

section

variable {ctx : Context} {b : Buffer} {cond : Condition} {test : Char → Bool}
  (hdoc : ctx.document.charAt = b.charAt) (htest : cond.test? = some test) (start : Nat)
  {bound : Bound} (cur : Cursor)

include htest

/-- A plain condition remembers nothing. -/
theorem condition_stop_of_test (position : Int) (c : Char) (k : Condition) (hk : k = cond)
    (_ : ctx.charAt position = .ok c) : (k.stop ctx position c).condition = cond := by
  rw [hk, Condition.stop_of_test htest]

include hdoc

theorem forwardWith_exact (hlength : ctx.document.length ≤ lastPosition)
    (hbound : bound.above ctx.document.length ≤ ctx.document.length) : ∃ found after,
      forwardWith start bound cond ctx cur = .ok ((found, cond), after) ∧
        ForwardExact b.text test start (bound.above ctx.document.length) cur found after := by
  have hlimit := Nat.le_trans hbound hlength
  have hreads := forward_reads hdoc htest hlimit
    (cur.moveTo (min start (bound.above ctx.document.length) : Nat)) cond rfl _ rfl
    (Nat.min_le_right start _)
  refine ⟨_, _, ?_, hreads.exact hlimit⟩
  rw [forwardWith_within rfl hbound hlength]
  simp only
  rw [(Direction.run_forward ctx _ _ _).keeps (condition_stop_of_test htest) rfl]

theorem backwardWith_exact (hbound : ∀ n, bound = .offset n → n ≤ lastPosition)
    (hempty : ctx.document.isEmpty = false) : ∃ found after,
      backwardWith start bound cond ctx cur = .ok ((found, cond), after) ∧
        BackwardExact b.text test (min start lastPosition) bound.below cur found after := by
  have hlow : -1 ≤ bound.below := Bound.below_eq_lower hbound ▸ bound.neg_one_le_lower
  have hstart : min start lastPosition ≤ lastPosition := Nat.min_le_right start lastPosition
  rw [backwardWith, backwardFrom, if_neg (by simp [hempty])]
  by_cases hread : bound.below < (min start lastPosition : Nat) →
      min start lastPosition < b.text.length
  · have hreads := backward_reads hdoc htest hlow (cur.moveTo (min start lastPosition : Nat)) cond
      rfl (by rw [Cursor.position_moveTo]; omega)
      (fun h => by rw [Cursor.position_moveTo] at h ⊢; exact_mod_cast hread h)
    refine ⟨_, _, ?_, hreads.exact hlow hstart hread⟩
    rw [(Direction.run_backward ctx _ _ _).keeps (condition_stop_of_test htest) rfl]
  · obtain ⟨hlt, hunread⟩ := Classical.not_imp.mp hread
    obtain ⟨after, hout, hexact⟩ := backwardExact_unreadable hdoc test cur cond hstart hlt
      (Nat.le_of_not_lt hunread)
    exact ⟨none, after, by rw [hout]; rfl, hexact⟩

end

/-- For a text of any stated length, a plain forward scan within it gives the least offset of its
range at which the text has a character that passes the test, and a plain backward scan the
greatest, if it can read where it begins; of a text that is stated to be empty the latter reads
nothing. The condition stays as it is. The searches for what is not blank are such scans. -/
theorem plain_scans_exact (b : Buffer) (length : Nat) (hlength : length ≤ lastPosition)
    (classifier : Classifier) (filter : Filter) (cond : Condition) (test : Char → Bool)
    (htest : cond.test? = some test) (start : Nat) (bound : Bound) (cur : Cursor) :
    let ctx : Context := ⟨b.stating length, classifier, filter⟩
    (bound.above length ≤ length → ∃ found after,
      forwardWith start bound cond ctx cur = .ok ((found, cond), after) ∧
      ForwardExact b.text test start (bound.above length) cur found after) ∧
    ((∀ n, bound = .offset n → n ≤ lastPosition) → ∃ found after,
      backwardWith start bound cond ctx cur = .ok ((found, cond), after) ∧
      (0 < length →
        BackwardExact b.text test (min start lastPosition) bound.below cur found after) ∧
      (length = 0 → found = none ∧ after = cur.moveTo bound.below)) ∧
    ∀ lineBreakIsBlank,
      nonBlankForward start bound lineBreakIsBlank =
        (forwardWith start bound (.nonBlank lineBreakIsBlank)).offset ∧
      nonBlankBackward start bound lineBreakIsBlank =
        (backwardWith start bound (.nonBlank lineBreakIsBlank)).offset := by
  intro ctx
  have hdoc : ctx.document.charAt = b.charAt := rfl
  refine ⟨fun hbound => forwardWith_exact hdoc htest start cur hlength hbound, fun hbound => ?_,
    fun _ => ⟨rfl, rfl⟩⟩
  cases hempty : ctx.document.isEmpty with
  | true =>
    have hzero : length = 0 := by simpa [ctx, Buffer.stating] using hempty
    refine ⟨none, _, ?_, fun hpos => by omega, fun _ => ⟨rfl, rfl⟩⟩
    rw [backwardWith, backwardFrom, if_pos hempty]
    rfl
  | false =>
    have hpos : length ≠ 0 := by simpa [ctx, Buffer.stating] using hempty
    obtain ⟨found, after, hanswer, hexact⟩ :=
      backwardWith_exact hdoc htest start cur hbound hempty
    exact ⟨found, after, hanswer, fun _ => hexact, fun hzero => absurd hzero hpos⟩

/-- The text is two characters short of the length stated for it. Going forward the scan ends where
the text does, with the last blank read; going backward it ends where it begins, unless it begins in
the text. -/
theorem plain_scans_exact_short_text :
    let b := Buffer.scratch ['a', 'b', ' ', '\t']
    let ctx : Context := ⟨b.stating 6, .failing, .defaultOnly⟩
    6 ≤ lastPosition ∧ (Condition.nonBlank false).test? = some (Condition.isNonBlank false) ∧
      (∃ after, forwardWith 2 .unbound (.nonBlank false) ctx {} =
        .ok ((none, .nonBlank false), after) ∧
        after.position = 4 ∧ after.char = '\t') ∧
      (∃ after, backwardWith 9 (.offset 1) (.nonBlank false) ctx {} =
        .ok ((none, .nonBlank false), after) ∧ after.position = 9) ∧
      ∃ after, backwardWith 3 .unbound (.nonBlank false) ctx {} =
        .ok ((some 1, .nonBlank false), after) ∧ after.position = 1 := by
  intro b ctx
  have hlength : 6 ≤ lastPosition := by decide
  have hscans := plain_scans_exact b 6 hlength .failing .defaultOnly (.nonBlank false) _ rfl
  refine ⟨hlength, rfl, ?_, ?_, ?_⟩
  · obtain ⟨found, after, hanswer, hexact⟩ := (hscans 2 .unbound {}).1 (Nat.le_refl 6)
    have hblank : ∀ o < 6, 2 ≤ o → ¬ stopsAt b.text (Condition.isNonBlank false) o = true := by
      decide
    obtain rfl : found = none :=
      hexact.least.unique (least_none fun o ho => hblank o ho.2.1 ho.1 ho.2.2)
    obtain ⟨last, hlast, hchar⟩ := hexact.char
    obtain rfl : last = some 3 :=
      hlast.unique (greatest_some ⟨by decide, by decide, by decide, nofun⟩ fun o ho =>
        Nat.le_of_lt_succ ho.2.2.1)
    have hend : IsLeast {o | 2 ≤ o ∧ b.text.length ≤ o} 4 :=
      ⟨⟨by decide, Nat.le_refl 4⟩, fun o ho => ho.2⟩
    exact ⟨after, hanswer, hexact.position_unreadable rfl 4 hend (by decide), hchar⟩
  · obtain ⟨found, after, hanswer, hexact, -⟩ :=
      (hscans 9 (.offset 1) {}).2.1 fun n hn => by cases hn; decide
    obtain rfl : found = none := (hexact (by decide)).unreadable (by decide)
    exact ⟨after, hanswer, (hexact (by decide)).position_none rfl⟩
  · obtain ⟨found, after, hanswer, hexact, -⟩ := (hscans 3 .unbound {}).2.1 nofun
    have hblank : ∀ o ≤ 3, 1 < o → ¬ stopsAt b.text (Condition.isNonBlank false) o = true := by
      decide
    obtain rfl : found = some 1 :=
      ((hexact (by decide)).greatest (by decide)).unique
        (greatest_some ⟨by decide, by decide, by decide⟩ fun o ho =>
          Nat.le_of_not_lt fun hlt => hblank o ho.2.1 hlt ho.2.2)
    exact ⟨after, hanswer, (hexact (by decide)).position_found 1 rfl⟩

end PartitionScan.Scan
